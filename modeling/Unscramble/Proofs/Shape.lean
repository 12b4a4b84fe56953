import Unscramble.Proofs.Pattern.Runs
import Unscramble.Proofs.Text.Spelled
import Unscramble.Shape

/-!
# The helper shapes as patterns

What the templates of the shapes read as. They all are patterns, so a body is refused for its shape
only, and classifying it means to look for four fixed forms in order.

## Main definitions

* `reverseShape`, `dropShape`, `swapShape`: the forms of a helper body.
* `knownShapes`: the forms with the families that they stand for.

## Main statements

* `compiledShapes_eq`: reading the templates gives these forms.
* `classify_eq`: the first form that occurs in a body decides.
-/

namespace Unscramble

open Unscramble.Text Unscramble.Pattern
open Pattern.Node (word plus)

/-- A word on which `reverse()` is called. -/
def reverseShape : List Node :=
  plus .word :: word ".reverse()".toList

/-- A word on which `splice` is called with zero and a word character. -/
def dropShape : List Node :=
  plus .word :: word ".splice(0,".toList ++ [.one .word, .char ')']

/-- A word character at some place of a word character's length. -/
def moduloShape : List Node :=
  [.one .word, .char '%', .one .word] ++ word ".length".toList

/-- The first place exchanged with another, whose second mention has the given form. -/
def swapShape (place : List Node) : List Node :=
  word "var".toList ++ [.one .blank, .one .word, .char '=', .one .word] ++ word "[0];".toList ++
    [.one .word] ++ word "[0]=".toList ++ [.one .word, .char '['] ++ moduloShape ++
    word "];".toList ++ [.one .word, .char '['] ++ place ++ word "]=".toList ++ [.one .word]

/-- The known forms, in the order in which they are tried. -/
def knownShapes : List (Pattern × Family) :=
  [(⟨Node.cats reverseShape, []⟩, .reverse), (⟨Node.cats dropShape, []⟩, .dropMiddle),
    (⟨Node.cats (swapShape [.one .word]), []⟩, .swapHead),
    (⟨Node.cats (swapShape moduloShape), []⟩, .swapHead)]

/-- The templates of the shapes. -/
def shapeTexts : Spelled r"\w+\.reverse\(\)" × Spelled r"\w+\.splice\(0,\w\)" ×
    Spelled r"var\s\w=\w\[0\];\w\[0\]=\w\[\w%\w\.length\];\w\[\w\]=\w" ×
    Spelled r"var\s\w=\w\[0\];\w\[0\]=\w\[\w%\w\.length\];\w\[\w%\w\.length\]=\w" :=
  (.of rfl, .of rfl, .of rfl, .of rfl)

set_option maxRecDepth 4000 in
theorem compiledShapes_eq : compiledShapes = .ok knownShapes := by
  unfold compiledShapes shapes
  simp only [List.mapM_cons, List.mapM_nil]
  rw [shapeTexts.1.toList_eq, shapeTexts.2.1.toList_eq, shapeTexts.2.2.1.toList_eq,
    shapeTexts.2.2.2.toList_eq]
  rfl

/-- **A body is classified** by the first form that occurs in it. -/
theorem classify_eq (body : List Char) :
    classify body =
      match knownShapes.find? fun shape ↦ shape.1.occursIn body with
      | some shape => .ok shape.2
      | none => .error (.unknownShape (String.ofList body)) := by
  unfold classify
  simp only [compiledShapes_eq]
  cases knownShapes.find? fun shape ↦ shape.1.occursIn body <;> rfl

/-- A body that is refused is refused for its shape. -/
theorem classify_eq_error {body : List Char} {e : Failure} (h : classify body = .error e) :
    e = .unknownShape (String.ofList body) := by
  rw [classify_eq] at h
  split at h
  · cases h
  · exact (Except.error.inj h).symm

end Unscramble

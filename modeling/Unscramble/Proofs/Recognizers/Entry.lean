import Unscramble.Proofs.Lookup
import Unscramble.Proofs.Pattern.Answer
import Unscramble.Proofs.Pattern.Captures
import Unscramble.Proofs.Recognizers

/-!
# Which names the entry recognizers find

The recognizers of the entry routine have no gap, so each is one pattern, which is found by reading
its text. There are eleven of them. All capture a name, a word of letters and digits of ASCII and
`$`, which one of them wants to have two characters, and they differ in what they look for around
it. `EntryForm` is a pattern of that kind, and `EntryForm.all` lists the eleven.

Only one of the patterns has another group, and it stands in front of the name. So what a recognizer
captures is the name, whatever the script is.

## Main definitions

* `EntryForm`: a pattern that captures a name.
* `EntryForm.all`: the patterns of the entry recognizers.

## Main statements

* `EntryForm.forall₂_read_all`: each recognizer reads as its pattern.
* `EntryForm.exists_recognize`: each recognizer captures nothing or a name.
* `Lookups.entryName_cases`: a script has no entry routine, or one with a name.
-/

namespace Unscramble

open Unscramble.Text Unscramble.Pattern
open Pattern.Node (word plus)

/-! ### Patterns that capture a name -/

/-- A word of the characters of names. -/
def IsName (w : List Char) : Prop :=
  w ≠ [] ∧ ∀ x ∈ w, nameClass.has x = true

/-- A pattern that captures a name: the parts in front of the name, the group and the name, and the
parts behind it, in which the group does not occur. -/
structure EntryForm where
  before : List Node
  group : ℕ
  name : Node
  behind : List Node
  consumes_name : name.Consumes IsName
  isFree_behind : (Node.cats behind).isFree group = true

namespace EntryForm

/-- The pattern of a form. -/
def pattern (f : EntryForm) : Pattern :=
  ⟨Node.cats (f.before ++ .group f.group f.name :: f.behind), [(Recognizer.valueGroup, f.group)]⟩

/-- What a match of a form captures is a name. -/
theorem exists_chosen (f : EntryForm) {text : List Char} {q : Place}
    (h : f.pattern.find? text = some q) :
    ∃ w, Recognizer.chosen f.pattern q = some w ∧ IsName w := by
  obtain ⟨u, v, -, hfirst⟩ := Node.exists_of_search h
  obtain ⟨q', hrun, hq'⟩ := Node.exists_mem_runs_of_first hfirst
  obtain rfl : q' = q := Option.some.inj hq'
  obtain ⟨m, -, w, rest, -, hw, -, hcaptured⟩ :=
    Node.exists_of_mem_runs_group f.consumes_name f.isFree_behind hrun
  refine ⟨w, ?_, hw⟩
  show (q'.captured? f.group).or _ = some w
  rw [hcaptured]
  rfl

/-! ### Parts of the patterns -/

/-- The letters and digits of ASCII. -/
def alnumClass : CharClass :=
  .union (.union (.range 'a' 'z') (.range 'A' 'Z')) (.range '0' '9')

/-- A quotation mark of either kind. -/
def quoteClass : CharClass :=
  .union (.only '"') (.only '\'')

/-- The edge of a word. -/
def wordEdge : Node :=
  .look (.edge isWord)

/-- A condition and an object. -/
def guarded (condition object : Node) : List Node :=
  [condition, Node.blanks] ++ word "&&".toList ++ [Node.blanks, object]

/-- A condition and an object with the short names that they usually have. -/
def usualGuard : List Node :=
  guarded (.one (.union (.only 'c') (.only 's')))
    (.one (.union (.union (.only 'a') (.only 'd')) (.only 'f')))

/-- A condition and an object with any names. -/
def anyGuard : List Node :=
  guarded (plus alnumClass) (plus alnumClass)

/-- A parameter being set, up to its value. -/
def setTo : List Node :=
  word ".set(".toList ++ [plus (.not (.only ',')), Node.blanks, .char ',', Node.blanks]

/-- The value being encoded, up to the parenthesis. -/
def encode : List Node :=
  word "encodeURIComponent".toList ++ [Node.blanks, .char '(']

/-- A function being chosen in parentheses and called, up to its argument. -/
def wrapping : List Node :=
  [.char '(', .many true (.not (.only ')')), .char ')', Node.blanks, .char '(', Node.blanks]

/-- A routine that begins by splitting its parameter into characters, from its name on. -/
def splitting : List Node :=
  [Node.blanks, .char '=', Node.blanks] ++ word "function(".toList ++
    [Node.blanks, .char 'a', Node.blanks, .char ')', Node.blanks, .char '\x7b', Node.blanks,
      .char 'a', Node.blanks, .char '=', Node.blanks] ++ word "a.split(".toList ++
    [Node.blanks, .char '"', .char '"', Node.blanks, .char ')']

/-- The name of a routine that is called. -/
def called (before : List Node) (group : ℕ) : EntryForm where
  before := before
  group := group
  name := plus nameClass
  behind := [.char '(']
  consumes_name := Node.consumes_plus nameClass
  isFree_behind := rfl

/-! ### The built-in patterns -/

/-- The patterns of the entry recognizers. -/
def all : List EntryForm := [
  called (wordEdge :: usualGuard ++ setTo ++ encode ++ [Node.blanks]) 1,
  called (wordEdge :: anyGuard ++ setTo ++ encode ++ [Node.blanks]) 1,
  ⟨[.alt wordEdge (.one (.not nameClass))], 1, .cat (.one nameClass) (.one nameClass), splitting,
    Node.consumes_pair nameClass, rfl⟩,
  ⟨[], 1, plus nameClass, splitting, Node.consumes_plus nameClass, rfl⟩,
  called (.group 1 (.one quoteClass) :: word "signature".toList ++
    [.one quoteClass, Node.blanks, .char ',', Node.blanks]) 2,
  called (word ".sig||".toList) 1,
  called (word "yt.akamaized.net/)".toList ++ [Node.blanks] ++ word "||".toList ++
    [Node.blanks, .many false (.not (.only '\n')), Node.blanks] ++ usualGuard ++ setTo ++
    [.alt (Node.cats encode) .empty, Node.blanks]) 1,
  called (wordEdge :: usualGuard ++ setTo) 1,
  called (wordEdge :: anyGuard ++ setTo) 1,
  called (wordEdge :: guarded (.char 'c') (.char 'a') ++ setTo ++ wrapping) 1,
  called (wordEdge :: guarded (.char 'c') (plus alnumClass) ++ setTo ++ wrapping) 1]

/-! ### Reading the recognizers -/

/-- The text of a condition and an object with the usual names. -/
def usualGuardText : Spelled Template.usualGuard :=
  .of rfl

/-- The text of a condition and an object with any names. -/
def anyGuardText : Spelled Template.anyGuard :=
  .of rfl

/-- The text of a parameter being set. -/
def setToText : Spelled Template.setTo :=
  .of rfl

/-- The text of a value being encoded. -/
def encodingText : Spelled Template.encoding :=
  .of rfl

/-- The text of a function being chosen in parentheses and called. -/
def wrappingText : Spelled Template.wrapping :=
  .of rfl

/-- The text of a routine that begins by splitting its parameter. -/
def splittingText : Spelled Template.splitting :=
  .of rfl

/-- The text of a call of the wanted routine. -/
def calledText : Spelled Template.called :=
  .of rfl

/-- A recognizer without a gap reads as its characters do. -/
theorem read_of_spelled {r : Recognizer} (t : Spelled r.template) {p : Pattern}
    (h : Pattern.read t.chars = .ok p) : Pattern.read (r.patternText none) = .ok p := by
  rw [Recognizer.patternText, t.toList_eq, h]

set_option maxRecDepth 4000 in
/-- **Each entry recognizer reads as its pattern.** -/
theorem forall₂_read_all : List.Forall₂
    (fun r f ↦ Pattern.read (r.patternText none) = .ok f.pattern) entryRecognizers all := by
  refine .cons ?_ (.cons ?_ (.cons ?_ (.cons ?_ (.cons ?_ (.cons ?_ (.cons ?_ (.cons ?_
    (.cons ?_ (.cons ?_ (.cons ?_ .nil))))))))))
  · exact read_of_spelled
      (.append (.append (.append usualGuardText setToText) encodingText) calledText) rfl
  · exact read_of_spelled
      (.append (.append (.append anyGuardText setToText) encodingText) calledText) rfl
  · exact read_of_spelled (.append (.of rfl) splittingText) rfl
  · exact read_of_spelled (.append (.of rfl) splittingText) rfl
  · exact read_of_spelled (.append (.of rfl) calledText) rfl
  · exact read_of_spelled (.append (.of rfl) calledText) rfl
  · exact read_of_spelled
      (.append (.append (.append (.of rfl) setToText) (.of rfl)) calledText) rfl
  · exact read_of_spelled (.append (.append usualGuardText setToText) calledText) rfl
  · exact read_of_spelled (.append (.append anyGuardText setToText) calledText) rfl
  · exact read_of_spelled
      (.append (.append (.append (.of rfl) setToText) wrappingText) calledText) rfl
  · exact read_of_spelled
      (.append (.append (.append (.of rfl) setToText) wrappingText) calledText) rfl

/-- Each entry recognizer captures nothing or a name. -/
theorem exists_recognize {r : Recognizer} (h : r ∈ entryRecognizers) (text : List Char) :
    ∃ o, r.recognize text none = .ok o ∧ ∀ w ∈ o, IsName w := by
  obtain ⟨f, hf⟩ : ∃ f : EntryForm, Pattern.read (r.patternText none) = .ok f.pattern := by
    have := List.forall₂_iff_get.1 forall₂_read_all
    obtain ⟨i, hi, rfl⟩ := List.mem_iff_getElem.1 h
    exact ⟨_, this.2 i hi (this.1 ▸ hi)⟩
  refine ⟨_, Recognizer.recognize_of_read hf text, fun w hw ↦ ?_⟩
  obtain ⟨q, hq, hchosen⟩ := Option.bind_eq_some_iff.1 hw
  obtain ⟨w', hw', hname⟩ := f.exists_chosen hq
  obtain rfl : w' = w := Option.some.inj (hw'.symm.trans hchosen)
  exact hname

end EntryForm

/-- **The entry routine.** A script has none, or one whose name is a word of letters and digits of
ASCII and `$`. -/
theorem Lookups.entryName_cases (script : List Char) :
    (standard.entryName script).outcome = .error (.notFound .entryName) ∨
      ∃ name, (standard.entryName script).outcome = .ok name ∧ IsName name := by
  have hends := (standard.get .entryName).run_ends script none
  rcases h : (standard.entryName script).outcome with e | name
  · have hfailed : ((standard.get .entryName).run script none).outcome = .error e := h
    rw [hfailed] at hends
    generalize ((standard.get .entryName).run script none).trail = b at hends
    rcases hends with - | - | ⟨hsplit, -, hrefused⟩
    · exact .inl rfl
    · -- no recognizer is refused
      have hmem : _ ∈ entryRecognizers := hsplit ▸ List.mem_append_right _ List.mem_cons_self
      obtain ⟨o, ho, -⟩ := EntryForm.exists_recognize hmem script
      rw [ho] at hrefused
      cases hrefused
  · obtain ⟨r, hr, hcaptured⟩ := Lookup.exists_of_outcome_run h
    obtain ⟨o, ho, hname⟩ := EntryForm.exists_recognize hr script
    obtain rfl : o = some name := Except.ok.inj (ho.symm.trans hcaptured)
    exact .inr ⟨name, rfl, hname name rfl⟩

end Unscramble

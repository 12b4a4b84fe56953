import Mathlib.Data.List.Forall2
import Mathlib.Data.List.Infix
import Unscramble.Proofs.Pattern.Occurrence
import Unscramble.Proofs.Shape

/-!
# The fragments that a body is known by

A shape is looked for anywhere in a body, and nothing is asked of what stands around it. So a shape
is a *fragment*, a few characters in a row that a body must show, where any word character does for
a name. Two of the shapes begin with a word of any length, but only its last character matters,
since a match may begin within a word.

Fragments are written here as they stand in the body, with `w` for a word character and a space for
any white space. Whether a text shows a fragment can be computed, so `classify_eq_ite` is a second
way to classify a body, which knows nothing of patterns.

## Main definitions

* `Shows`: a text shows a fragment.
* `reverseFragment`, `dropFragment`, `swapFragment`, `swapModuloFragment`: the fragments of the
  known shapes.

## Main statements

* `Shows.append`: what a text shows is also shown by a longer one.
* `occursIn_knownShapes`: a shape occurs in a body exactly if the body shows its fragment.
* `classify_eq_ite`: a body is classified by the first fragment that it shows.
* `classify_eq_iff`: which family a body is of, and when it is of none.
-/

namespace Unscramble

open Unscramble.Pattern

/-! ### Fragments -/

/-- The characters that may stand in the place of a fragment's character: a word character for `w`,
white space for a space, and nothing else for any other. -/
def fragmentClass (c : Char) : CharClass :=
  if c = 'w' then .word else if c = ' ' then .blank else .only c

/-- Somewhere in the text are characters in a row that may stand in the places of the fragment's. -/
def Shows (fragment s : List Char) : Prop :=
  ∃ u w v, s = u ++ (w ++ v) ∧ List.Forall₂ (fun c x ↦ (fragmentClass c).has x = true) fragment w

variable {fragment s body : List Char}

theorem shows_iff_exists_mem_tails : Shows fragment s ↔ ∃ t ∈ s.tails,
    List.Forall₂ (fun c x ↦ (fragmentClass c).has x = true) fragment (t.take fragment.length) := by
  constructor
  · rintro ⟨u, w, v, rfl, hw⟩
    refine ⟨w ++ v, (List.mem_tails ..).2 ⟨u, rfl⟩, ?_⟩
    rwa [hw.length_eq, List.take_left]
  · rintro ⟨t, ht, hw⟩
    obtain ⟨u, rfl⟩ := (List.mem_tails ..).1 ht
    exact ⟨u, _, t.drop fragment.length, by rw [List.take_append_drop], hw⟩

instance : Decidable (Shows fragment s) :=
  decidable_of_iff' _ shows_iff_exists_mem_tails

/-- What a text shows is also shown by a longer one. -/
theorem Shows.append (h : Shows fragment s) (before behind : List Char) :
    Shows fragment (before ++ (s ++ behind)) := by
  obtain ⟨u, w, v, rfl, hw⟩ := h
  exact ⟨before ++ u, w, v ++ behind, by simp, hw⟩

/-- A fragment as a sequence of classes. -/
def fragmentPieces (fragment : List Char) : List Piece :=
  fragment.map fun c ↦ .one (fragmentClass c)

theorem holds_pieces_iff : Holds (fragmentPieces fragment) s ↔ Shows fragment s := by
  have hmap : fragmentPieces fragment = (fragment.map fragmentClass).map .one :=
    (List.map_map ..).symm
  rw [hmap]
  refine exists_congr fun u ↦ exists_congr fun w ↦ exists_congr fun v ↦ and_congr_right fun _ ↦ ?_
  rw [spells_map_one, List.forall₂_map_left_iff]

/-- A shape that is a fragment occurs where the fragment shows. -/
theorem occursIn_iff_shows {shape : List Node}
    (h : shape = (fragmentPieces fragment).map Piece.node) :
    occursIn ⟨Node.cats shape, []⟩ s = true ↔ Shows fragment s := by
  rw [h, occursIn_pieces_iff, holds_pieces_iff]

/-- A shape that begins with a word of any length shows only the last character of it. -/
theorem occursIn_iff_shows_cons {shape : List Node} (fragment : List Char)
    (h : shape = (.some .word :: fragmentPieces fragment).map Piece.node) :
    occursIn ⟨Node.cats shape, []⟩ s = true ↔ Shows ('w' :: fragment) s := by
  rw [h, occursIn_pieces_iff, holds_some_cons_iff, ← holds_pieces_iff]
  rfl

/-! ### The fragments of the known shapes -/

/-- A name on which `reverse()` is called. -/
def reverseFragment : List Char :=
  "w.reverse()".toList

/-- A name on which `splice` is called with zero and a name. -/
def dropFragment : List Char :=
  "w.splice(0,w)".toList

/-- The first place exchanged with another, which takes no remainder the second time. -/
def swapFragment : List Char :=
  "var w=w[0];w[0]=w[w%w.length];w[w]=w".toList

/-- The first place exchanged with another, which takes a remainder both times. -/
def swapModuloFragment : List Char :=
  "var w=w[0];w[0]=w[w%w.length];w[w%w.length]=w".toList

/-- The fragments of the known shapes. -/
def fragments : List (List Char) :=
  [reverseFragment, dropFragment, swapFragment, swapModuloFragment]

/-- **A shape occurs in a body** exactly if the body shows its fragment. -/
theorem occursIn_knownShapes (body : List Char) : List.Forall₂
    (fun shape fragment ↦ shape.1.occursIn body = true ↔ Shows fragment body)
    knownShapes fragments :=
  .cons (occursIn_iff_shows_cons ".reverse()".toList rfl)
    (.cons (occursIn_iff_shows_cons ".splice(0,w)".toList rfl)
      (.cons (occursIn_iff_shows rfl) (.cons (occursIn_iff_shows rfl) .nil)))

/-- **The first fragment that a body shows decides.** -/
theorem classify_eq_ite (body : List Char) : classify body =
    if Shows reverseFragment body then .ok .reverse
    else if Shows dropFragment body then .ok .dropMiddle
    else if Shows swapFragment body ∨ Shows swapModuloFragment body then .ok .swapHead
    else .error (.unknownShape (String.ofList body)) := by
  obtain ⟨hreverse, hdrop, hswap, hmodulo, -⟩ : (_ ∧ _ ∧ _ ∧ _ ∧ True) := by
    simpa only [knownShapes, fragments, List.forall₂_cons, List.forall₂_nil_left_iff] using
      occursIn_knownShapes body
  simp only [classify_eq, knownShapes, List.find?_cons]
  by_cases h₁ : Shows reverseFragment body
  · rw [if_pos h₁, hreverse.2 h₁]
  rw [if_neg h₁, Bool.eq_false_iff.2 (mt hreverse.1 h₁)]
  by_cases h₂ : Shows dropFragment body
  · rw [if_pos h₂, hdrop.2 h₂]
  rw [if_neg h₂, Bool.eq_false_iff.2 (mt hdrop.1 h₂)]
  -- both forms of an exchange are of one family
  by_cases h₃ : Shows swapFragment body
  · rw [if_pos (.inl h₃), hswap.2 h₃]
  rw [Bool.eq_false_iff.2 (mt hswap.1 h₃)]
  by_cases h₄ : Shows swapModuloFragment body
  · rw [if_pos (.inr h₄), hmodulo.2 h₄]
  · rw [if_neg (not_or.2 ⟨h₃, h₄⟩), Bool.eq_false_iff.2 (mt hmodulo.1 h₄)]
    rfl

theorem classify_eq_reverse_iff : classify body = .ok .reverse ↔ Shows reverseFragment body := by
  rw [classify_eq_ite]
  split_ifs with h <;> simp [h]

/-- A body that shows the first fragment stays what it is whatever is put around it. -/
theorem classify_append_of_reverse (h : classify body = .ok .reverse) (before behind : List Char) :
    classify (before ++ (body ++ behind)) = .ok .reverse :=
  classify_eq_reverse_iff.2 ((classify_eq_reverse_iff.1 h).append before behind)

/-- **Which family a body is of**, and when it is of none: the first of the fragments that it shows
decides, and a body that shows none is refused. -/
theorem classify_eq_iff (body : List Char) :
    ((classify body = .ok .reverse ↔ Shows reverseFragment body) ∧
      (classify body = .ok .dropMiddle ↔ ¬ Shows reverseFragment body ∧ Shows dropFragment body) ∧
      (classify body = .ok .swapHead ↔ ¬ Shows reverseFragment body ∧ ¬ Shows dropFragment body ∧
        (Shows swapFragment body ∨ Shows swapModuloFragment body)) ∧
      (classify body = .error (.unknownShape (String.ofList body)) ↔
        ∀ fragment ∈ fragments, ¬ Shows fragment body) ∧
      ((∃ family, classify body = .ok family) ↔ ∃ fragment ∈ fragments, Shows fragment body)) ∧
    ∀ before behind, classify body = .ok .reverse →
      classify (before ++ (body ++ behind)) = .ok .reverse := by
  refine ⟨?_, fun before behind h ↦ classify_append_of_reverse h before behind⟩
  rw [classify_eq_ite]
  by_cases h₁ : Shows reverseFragment body
  · simp [fragments, h₁]
  by_cases h₂ : Shows dropFragment body
  · simp [fragments, h₁, h₂]
  by_cases h₃ : Shows swapFragment body
  · simp [fragments, h₁, h₂, h₃]
  by_cases h₄ : Shows swapModuloFragment body
  · simp [fragments, h₁, h₂, h₃, h₄]
  · simp [fragments, h₁, h₂, h₃, h₄]

end Unscramble

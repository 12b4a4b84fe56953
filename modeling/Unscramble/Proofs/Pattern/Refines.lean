import Mathlib.Data.List.Forall2
import Unscramble.Proofs.Pattern.Captures
import Unscramble.Proofs.Pattern.Occurrence

/-!
# Patterns that ask for more

One pattern asks for more than another if all its runs are runs of the other. Then the other occurs
wherever it does. This does not say that a search for either finds the same: the other pattern may
occur further left, and may prefer another run.

That all runs of a sequence are runs of another is shown part by part: for a part that stays as it
is there is nothing to show, and a single character of a class is a run of any repetition of a
larger class. A part in front may also be missing in the other pattern, if it only consumes a word.
Its runs then begin further on in the text.

## Main definitions

* `Node.Refines`: all runs of a pattern are runs of another.

## Main statements

* `Node.refines_cats`: a sequence is compared part by part.
* `Node.Refines.occursIn`: the other pattern occurs wherever this one does.
* `occursIn_of_consumes`: a pattern occurs without a part in front that only consumes a word.
-/

namespace Unscramble.Pattern

namespace Node

/-- All runs of `a` are runs of `b`. -/
def Refines (a b : Node) : Prop :=
  ∀ p q, q ∈ a.runs p → q ∈ b.runs p

variable {a b : Node} {as bs : List Node} {c d : CharClass}

theorem Refines.refl (a : Node) : a.Refines a :=
  fun _ _ h ↦ h

/-- A character of a class is one of a larger class. -/
theorem one_refines_plus (h : ∀ x, c.has x = true → d.has x = true) : (one c).Refines (plus d) := by
  intro p q hq
  obtain ⟨x, rest, hp, hx, rfl⟩ := mem_runs_one.1 hq
  exact mem_runs_plus.2 ⟨[x], rest, hp, List.cons_ne_nil x [],
    List.forall_mem_singleton.2 (h x hx), rfl⟩

/-- Two characters of a class are a repetition of it. -/
theorem pair_refines_plus (c : CharClass) : (cat (one c) (one c)).Refines (plus c) := by
  intro p q hq
  obtain ⟨w, rest, hp, ⟨hne, hw⟩, hq⟩ := consumes_pair c p q hq
  exact mem_runs_plus.2 ⟨w, rest, hp, hne, hw, hq⟩

theorem Refines.group (h : a.Refines b) (i : ℕ) : (group i a).Refines (group i b) := by
  intro p q hq
  obtain ⟨m, hm, hq⟩ := mem_runs_group.1 hq
  exact mem_runs_group.2 ⟨m, h p m hm, hq⟩

/-- **A sequence is compared part by part.** -/
theorem refines_cats (h : List.Forall₂ Refines as bs) : (cats as).Refines (cats bs) := by
  induction h with
  | nil => exact .refl _
  | cons hab _ ih =>
    intro p q hq
    obtain ⟨m, hm, hq⟩ := mem_runs_cats_cons.1 hq
    exact mem_runs_cats_cons.2 ⟨m, hab p m hm, ih m q hq⟩

theorem forall₂_refines_refl (as : List Node) : List.Forall₂ Refines as as :=
  List.forall₂_same.2 fun a _ ↦ .refl a

/-- Sequences that go on alike are compared up to there. -/
theorem forall₂_refines_append (h : List.Forall₂ Refines as bs) (cs : List Node) :
    List.Forall₂ Refines (as ++ cs) (bs ++ cs) :=
  List.rel_append h (forall₂_refines_refl cs)

/-- **The other pattern occurs** wherever this one does. -/
theorem Refines.occursIn (h : a.Refines b) {names names' : List (List Char × ℕ)} {s : List Char}
    (hs : Pattern.occursIn ⟨a, names⟩ s = true) : Pattern.occursIn ⟨b, names'⟩ s = true := by
  obtain ⟨u, v, hsplit, q, hq⟩ := occursIn_iff.1 hs
  exact occursIn_iff.2 ⟨u, v, hsplit, q, h _ q hq⟩

end Node

/-- The place behind a word of the text is that of a search which comes there. -/
theorem Place.after_search (u w rest : List Char) :
    Place.after ⟨u.getLast?, w ++ rest, u.length, [], []⟩ w rest =
      ⟨(u ++ w).getLast?, rest, (u ++ w).length, [], []⟩ := by
  simp [Place.after, List.getLast?_append]

/-- **A part in front may be missing**, if it only consumes a word: what is behind it occurs in any
text in which all of it does. -/
theorem occursIn_of_consumes {a : Node} {as : List Node} {P : List Char → Prop}
    (ha : a.Consumes P) {names names' : List (List Char × ℕ)} {s : List Char}
    (hs : occursIn ⟨Node.cats (a :: as), names⟩ s = true) :
    occursIn ⟨Node.cats as, names'⟩ s = true := by
  obtain ⟨u, v, rfl, q, hq⟩ := occursIn_iff.1 hs
  obtain ⟨m, hm, hq⟩ := Node.mem_runs_cats_cons.1 hq
  obtain ⟨w, rest, hw, -, rfl⟩ := ha _ m hm
  obtain rfl : v = w ++ rest := hw
  rw [Place.after_search] at hq
  exact occursIn_iff.2 ⟨u ++ w, rest, (List.append_assoc u w rest).symm, q, hq⟩

end Unscramble.Pattern

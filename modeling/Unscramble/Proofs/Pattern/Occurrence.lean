import Unscramble.Proofs.Pattern.Answer
import Unscramble.Proofs.Pattern.Pieces

/-!
# Where a pattern occurs

A search answers exactly if the pattern has a run from some place of the text. Which run is
preferred, and which place comes first, does not matter for that, so whether a pattern occurs in a
text is a question about runs only. For a sequence of classes it is one about the text only: a word
of the sequence must stand in it.

## Main definitions

* `Holds`: a word of a sequence of classes stands somewhere in a text.

## Main statements

* `Node.isSome_first_iff`: a pattern has a best run from a place exactly if it has a run.
* `Node.isSome_search_iff`: a search answers exactly if there is a run from some place.
* `occursIn_iff`: a pattern occurs in a text exactly if it has a run from a place in it.
* `occursIn_pieces_iff`: a sequence of classes occurs exactly if the text holds one of its words.
-/

namespace Unscramble.Pattern

namespace Node

variable {node : Node} {p : Place} {last : Option Char} {offset : ℕ} {s : List Char}

/-- There is a best run exactly if there is a run. -/
theorem isSome_first_iff : (node.first p some).isSome = true ↔ ∃ q, q ∈ node.runs p := by
  constructor
  · intro h
    obtain ⟨q, hq⟩ := Option.isSome_iff_exists.1 h
    obtain ⟨q', hq', -⟩ := exists_mem_runs_of_first hq
    exact ⟨q', hq'⟩
  · intro h
    by_contra hnone
    exact not_exists_of_first_eq_none (Option.not_isSome_iff_eq_none.1 hnone) h

/-- **A search answers** exactly if there is a run from some place of the text. -/
theorem isSome_search_iff : (node.search last offset s).isSome = true ↔
    ∃ u v, s = u ++ v ∧ ∃ q, q ∈ node.runs ⟨u.getLast?.or last, v, offset + u.length, [], []⟩ := by
  constructor
  · intro h
    obtain ⟨q, hq⟩ := Option.isSome_iff_exists.1 h
    obtain ⟨u, v, rfl, hfirst⟩ := exists_of_search hq
    exact ⟨u, v, rfl, isSome_first_iff.1 (Option.isSome_of_eq_some hfirst)⟩
  · rintro ⟨u, v, rfl, hruns⟩
    induction u generalizing last offset with
    | nil =>
      obtain ⟨q, hq⟩ := Option.isSome_iff_exists.1 (isSome_first_iff.2 hruns)
      exact Option.isSome_of_eq_some (search_of_first hq)
    | cons c u ih =>
      rw [List.cons_append, search]
      cases node.first ⟨last, c :: (u ++ v), offset, [], []⟩ some with
      | some q => rfl
      | none =>
        refine ih ?_
        rwa [getLast?_or_some c u last, Nat.add_right_comm, Nat.add_assoc, ← List.length_cons]

end Node

/-- **A pattern occurs in a text** exactly if it has a run from a place in it. -/
theorem occursIn_iff {p : Pattern} {s : List Char} : p.occursIn s = true ↔
    ∃ u v, s = u ++ v ∧ ∃ q, q ∈ p.node.runs ⟨u.getLast?, v, u.length, [], []⟩ := by
  rw [occursIn, find?, Node.isSome_search_iff]
  simp only [Option.or_none, Nat.zero_add]

/-! ### Sequences of classes -/

/-- A word of a sequence stands somewhere in a text. -/
def Holds (as : List Piece) (s : List Char) : Prop :=
  ∃ u w v, s = u ++ (w ++ v) ∧ Spells as w

/-- **A sequence of classes occurs in a text** exactly if the text holds one of its words. -/
theorem occursIn_pieces_iff {as : List Piece} {names : List (List Char × ℕ)} {s : List Char} :
    occursIn ⟨Node.cats (as.map Piece.node), names⟩ s = true ↔ Holds as s := by
  rw [occursIn_iff]
  constructor
  · rintro ⟨u, _, rfl, q, hq⟩
    obtain ⟨w, v, rfl, hw, -⟩ := Node.mem_runs_pieces.1 hq
    exact ⟨u, w, v, rfl, hw⟩
  · rintro ⟨u, w, v, rfl, hw⟩
    exact ⟨u, w ++ v, rfl, _, Node.mem_runs_pieces.2 ⟨w, v, rfl, hw, rfl⟩⟩

/-- In front of a sequence, one character of a class is as good as many. -/
theorem holds_some_cons_iff {c : CharClass} {as : List Piece} {s : List Char} :
    Holds (.some c :: as) s ↔ Holds (.one c :: as) s := by
  constructor
  · rintro ⟨u, _, v, rfl, a, b, rfl, ⟨hne, ha⟩, hb⟩
    obtain ⟨a, x, rfl⟩ := (List.eq_nil_or_concat' a).resolve_left hne
    have hx : c.has x = true := ha x (by simp)
    exact ⟨u ++ a, x :: b, v, by simp, [x], b, rfl, ⟨x, rfl, hx⟩, hb⟩
  · rintro ⟨u, _, v, rfl, _, b, rfl, ⟨x, rfl, hx⟩, hb⟩
    refine ⟨u, x :: b, v, rfl, [x], b, rfl, ⟨List.cons_ne_nil x [], ?_⟩, hb⟩
    exact List.forall_mem_singleton.2 hx

end Unscramble.Pattern

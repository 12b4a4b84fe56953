import Unscramble.Proofs.Pattern.Search

/-!
# From an answer back to the text

Following a pattern along a text shows what it finds there. The other way round, what a pattern has
found says something about the text. An answer is the answer of a place that the pattern reaches,
and if a lazy class was passed on the way, then what follows the class could not go on at any place
before it.

## Main definitions

* `StopsBehind`: a lazy class stops behind a word.

## Main statements

* `exists_mem_runs_of_first`: an answer comes from a place that the pattern reaches.
* `exists_stopsBehind_of_plusLazy`: a lazy class stops at the first place where what follows can go
  on.
* `exists_leftmost_of_search`: a search answers from the leftmost place in the text that has a run.
-/

namespace Unscramble.Pattern.Node

variable {β : Type} {p : Place} {k : Place → Option β} {b : β} {c : CharClass}

/-- An answer comes from a place that the pattern reaches. -/
theorem exists_mem_runs_of_first {node : Node} (h : node.first p k = some b) :
    ∃ q ∈ node.runs p, k q = some b := by
  rw [first_eq] at h
  exact List.exists_of_findSome?_eq_some h

/-- Without a best run there is no run. -/
theorem not_exists_of_first_eq_none {node : Node} (h : node.first p some = none) :
    ¬ ∃ q, q ∈ node.runs p := by
  rintro ⟨q, hq⟩
  cases first_eq_none_iff.1 h q hq

/-- What follows some parts answers from a place that the parts reach. -/
theorem exists_of_first_append {as bs : List Node} (h : (cats (as ++ bs)).first p k = some b) :
    ∃ m ∈ (cats as).runs p, (cats bs).first m k = some b := by
  induction as generalizing p with
  | nil => exact ⟨p, List.mem_singleton_self p, h⟩
  | cons a as ih =>
    rw [List.cons_append, first_cats_cons] at h
    obtain ⟨m₁, hm₁, h₁⟩ := exists_mem_runs_of_first h
    obtain ⟨m, hm, hmb⟩ := ih h₁
    exact ⟨m, mem_runs_cats_cons.2 ⟨m₁, hm₁, hm⟩, hmb⟩

/-! ### Lazy classes -/

/-- A lazy class stops behind the word `w`: what follows it answers there and at no place before. -/
structure StopsBehind (c : CharClass) (k : Place → Option β) (p : Place) (b : β)
    (w rest : List Char) : Prop where
  rest_eq : p.rest = w ++ rest
  all_has : ∀ x ∈ w, c.has x = true
  answer : k (p.after w rest) = some b
  none_before : ∀ u v, w = u ++ v → v ≠ [] → k (p.after u (v ++ rest)) = none

theorem StopsBehind.nil (h : k p = some b) : StopsBehind c k p b [] p.rest where
  rest_eq := rfl
  all_has := by simp
  answer := by rwa [Place.after_nil rfl]
  none_before u v huv hv := absurd (List.append_eq_nil_iff.1 huv.symm).2 hv

theorem StopsBehind.cons {x : Char} {s w rest : List Char} (hp : p.rest = x :: s)
    (hx : c.has x = true) (hk : k p = none) (h : StopsBehind c k (p.after [x] s) b w rest) :
    StopsBehind c k p b (x :: w) rest := by
  obtain ⟨hs, hw, hanswer, hnone⟩ := h
  rw [Place.rest_after] at hs
  subst hs
  refine ⟨hp, List.forall_mem_cons.2 ⟨hx, hw⟩, by rwa [Place.after_cons_after] at hanswer, ?_⟩
  rintro (_ | ⟨y, u⟩) v huv hv
  · -- the word has not begun
    obtain rfl : x :: w = v := huv
    rwa [List.cons_append, Place.after_nil hp]
  · obtain ⟨rfl, hw'⟩ : x = y ∧ w = u ++ v := List.cons.inj huv
    have hbefore := hnone u v hw' hv
    rwa [hw', List.append_assoc, Place.after_cons_after] at hbefore

theorem exists_stopsBehind_of_nearest {s : List Char} (hs : p.rest = s)
    (h : nearest c k s p = some b) : ∃ w rest, StopsBehind c k p b w rest := by
  induction s generalizing p with
  | nil => exact ⟨[], p.rest, .nil h⟩
  | cons x s ih =>
    rw [nearest] at h
    by_cases hx : c.has x = true
    · rw [if_pos hx] at h
      rcases hk : k p with - | b'
      · rw [hk, Place.step_eq_after] at h
        obtain ⟨w, rest, hstops⟩ := ih rfl h
        exact ⟨x :: w, rest, hstops.cons hs hx hk⟩
      · rw [hk] at h
        exact ⟨[], p.rest, .nil (hk.trans h)⟩
    · rw [if_neg hx] at h
      exact ⟨[], p.rest, .nil h⟩

/-- **A lazy class of at least one character** stops at the first place behind a character where
what follows can go on. -/
theorem exists_stopsBehind_of_plusLazy (h : (plusLazy c).first p k = some b) :
    ∃ x w rest, p.rest = x :: (w ++ rest) ∧ c.has x = true ∧
      StopsBehind c k (p.after [x] (w ++ rest)) b w rest := by
  rw [plusLazy, first] at h
  obtain ⟨m, hm, hmany⟩ := exists_mem_runs_of_first h
  obtain ⟨x, s, hp, hx, rfl⟩ := mem_runs_one.1 hm
  rw [first, if_neg Bool.false_ne_true] at hmany
  obtain ⟨w, rest, hstops⟩ := exists_stopsBehind_of_nearest rfl hmany
  obtain rfl : s = w ++ rest := hstops.rest_eq
  exact ⟨x, w, rest, hp, hx, hstops⟩

/-! ### Searches -/

section Search

variable {node : Node} {last : Option Char} {offset : ℕ} {s : List Char} {q : Place}

/-- **A search answers from the leftmost place** in the text that has a run. -/
theorem exists_leftmost_of_search (h : node.search last offset s = some q) :
    ∃ u v, s = u ++ v ∧
      node.first ⟨u.getLast?.or last, v, offset + u.length, [], []⟩ some = some q ∧
      ∀ u' v', s = u' ++ v' → u'.length < u.length →
        ¬ ∃ q', q' ∈ node.runs ⟨u'.getLast?.or last, v', offset + u'.length, [], []⟩ := by
  induction s generalizing last offset with
  | nil => exact ⟨[], [], rfl, h, fun _ _ _ hlt ↦ absurd hlt (Nat.not_lt_zero _)⟩
  | cons c s ih =>
    rw [search] at h
    rcases hhere : node.first ⟨last, c :: s, offset, [], []⟩ some with - | q'
    · rw [hhere] at h
      obtain ⟨u, v, rfl, hfirst, hleft⟩ := ih h
      refine ⟨c :: u, v, rfl, by rwa [start_cons], ?_⟩
      rintro (_ | ⟨d, u'⟩) v' hsplit hlt
      · -- there is no run from the beginning
        obtain rfl : c :: (u ++ v) = v' := hsplit
        exact not_exists_of_first_eq_none hhere
      · obtain ⟨rfl, hrest⟩ : c = d ∧ u ++ v = u' ++ v' := List.cons.inj hsplit
        rw [start_cons]
        exact hleft u' v' hrest (Nat.lt_of_succ_lt_succ hlt)
    · rw [hhere] at h
      exact ⟨[], c :: s, rfl, hhere.trans h, fun _ _ _ hlt ↦ absurd hlt (Nat.not_lt_zero _)⟩

/-- A search answers from a place in the text. -/
theorem exists_of_search (h : node.search last offset s = some q) :
    ∃ u v, s = u ++ v ∧
      node.first ⟨u.getLast?.or last, v, offset + u.length, [], []⟩ some = some q := by
  obtain ⟨u, v, hs, hfirst, -⟩ := exists_leftmost_of_search h
  exact ⟨u, v, hs, hfirst⟩

end Search

end Unscramble.Pattern.Node

import Unscramble.Proofs.Unscrambler.Lengths

/-!
# Plans that can be run backwards

Reversing and exchanging lose nothing, and each of them undoes itself. An exchange counts its number
round the token, and both leave the length as it is, so that the number means the same position
when the exchange is made again. A plan of such steps is undone by the same steps in the opposite
order: the last step is undone first, on the very token that it left.

Only the empty token cannot be exchanged, and no step makes a token empty. So on a token with a
character every step of such a plan can run, there and back.

## Main definitions

* `Family.IsLossless`: the families that lose nothing.
* `Unscrambler.reversed`: the plan with its steps in the opposite order.

## Main statements

* `swapFirst_swapFirst`: an exchange undoes itself.
* `Move.exists_apply_apply`: so does every move of a lossless family.
* `Unscrambler.exists_fold?_reverse`: calls of lossless moves are undone from the last to the first.
* `Unscrambler.run_reversed`: a plan of such calls gives a permutation, and can be undone.
-/

namespace Unscramble

variable {α : Type}

/-! ### One move -/

/-- Whether the moves of a family leave all characters in the token. -/
def Family.IsLossless (family : Family) : Prop :=
  family = .reverse ∨ family = .swapHead

/-- **An exchange undoes itself**, also where there is no second character to exchange. -/
theorem swapFirst_swapFirst (i : ℕ) (t : List α) : swapFirst i (swapFirst i t) = t := by
  rcases t with _ | ⟨a, r⟩
  · rfl
  rcases i with _ | j
  · rfl
  rcases hj : r[j]? with _ | b
  · have hkeep : swapFirst (j + 1) (a :: r) = a :: r := by rw [swapFirst, hj]
    rw [hkeep, hkeep]
  · obtain ⟨hlt, hb⟩ := List.getElem?_eq_some_iff.1 hj
    have hswap : swapFirst (j + 1) (a :: r) = b :: r.set j a := by rw [swapFirst, hj]
    have hback : (r.set j a)[j]? = some a := List.getElem?_set_self hlt
    rw [hswap, swapFirst, hback]
    show a :: (r.set j a).set j b = a :: r
    rw [List.set_set, ← hb, List.set_getElem_self]

namespace Move

/-- Reversing twice gives the token back. -/
theorem apply_reverse_reverse (t : List α) :
    reverse.apply t = .ok t.reverse ∧ reverse.apply t.reverse = .ok t :=
  ⟨rfl, congrArg Except.ok t.reverse_reverse⟩

/-- Exchanging twice gives the token back, for every number: the token keeps its length, so the
number stands for the same position again. -/
theorem apply_swapHead_swapHead (n : ℕ) {t : List α} (ht : t ≠ []) :
    (swapHead n).apply t = .ok (swapFirst (n % t.length) t) ∧
      (swapHead n).apply (swapFirst (n % t.length) t) = .ok t := by
  have hne : swapFirst (n % t.length) t ≠ [] := by
    rwa [← List.length_pos_iff, length_swapFirst, List.length_pos_iff]
  refine ⟨apply_swapHead n ht, ?_⟩
  rw [apply_swapHead n hne, length_swapFirst, swapFirst_swapFirst]

/-- **A lossless move rearranges** a token with a character in it, **and undoes itself.** -/
theorem exists_apply_apply {family : Family} (hfamily : family.IsLossless) (n : ℕ) {t : List α}
    (ht : t ≠ []) :
    ∃ u, (family.bind n).apply t = .ok u ∧ u.Perm t ∧ (family.bind n).apply u = .ok t := by
  rcases hfamily with rfl | rfl
  · obtain ⟨happly, hback⟩ := apply_reverse_reverse t
    exact ⟨_, happly, t.reverse_perm, hback⟩
  · obtain ⟨happly, hback⟩ := apply_swapHead_swapHead n ht
    exact ⟨_, happly, swapFirst_perm _ t, hback⟩

end Move

namespace Unscrambler

/-! ### Calls -/

/-- Whether all helpers that are called are known and lose nothing. -/
def AreLossless (helpers : HelperTable) (calls : List Call) : Prop :=
  ∀ c ∈ calls, ∃ family : Family, helpers.get? c.helper = some family ∧ family.IsLossless

theorem fold?_append (helpers : HelperTable) (cs ds : List Call) (token : List α) :
    fold? helpers (cs ++ ds) token = (fold? helpers cs token).bind (fold? helpers ds) :=
  List.foldlM_append

/-- **Calls of lossless moves are undone from the last to the first.** -/
theorem exists_fold?_reverse {helpers : HelperTable} {calls : List Call}
    (h : AreLossless helpers calls) {token : List α} (hne : token ≠ []) :
    ∃ t, fold? helpers calls token = some t ∧ t.Perm token ∧
      fold? helpers calls.reverse t = some token := by
  -- the first call is undone last, when the calls behind it are undone
  induction calls generalizing token with
  | nil => exact ⟨token, rfl, .refl _, rfl⟩
  | cons c cs ih =>
    obtain ⟨⟨family, hget, hfamily⟩, hcs⟩ := List.forall_mem_cons.1 h
    have hmove : helpers.move? c = some (family.bind c.argument) := by
      rw [HelperTable.move?, hget]
      rfl
    obtain ⟨u, happly, hu, hback⟩ := Move.exists_apply_apply hfamily c.argument hne
    have hune : u ≠ [] := mt (Move.eq_nil_iff_of_apply happly).1 hne
    obtain ⟨t, hfold, ht, hundo⟩ := ih hcs hune
    refine ⟨t, ?_, ht.trans hu, ?_⟩
    · rw [fold?_cons, after?_eq_some_iff.2 ⟨_, hmove, happly⟩]
      exact hfold
    · rw [List.reverse_cons, fold?_append, hundo, Option.bind_some, fold?_cons,
        after?_eq_some_iff.2 ⟨_, hmove, hback⟩]
      rfl

/-! ### Plans -/

/-- The unscrambler with the steps of its plan in the opposite order. -/
def reversed (u : Unscrambler) : Unscrambler :=
  ⟨⟨u.plan.steps.reverse, mt List.reverse_eq_nil_iff.1 u.plan.steps_ne_nil⟩, u.helpers⟩

/-- **A plan without a drop can be run backwards.** If all helpers of a plan are known and reverse
or exchange, whatever their numbers, a run on a token with a character in it succeeds with a
permutation of the token, and the same steps in the opposite order give the token back. In
particular each move undoes itself: a reversal on every token, and an exchange of any number on
every token with a character in it. -/
theorem run_reversed (u : Unscrambler) :
    (AreLossless u.helpers u.plan.steps → ∀ {α : Type} (token : List α), token ≠ [] →
      ∃ t, (u.run token).2 = .ok t ∧ t.Perm token ∧ t.length = token.length ∧
        (u.reversed.run t).2 = .ok token) ∧
    (∀ {α : Type} (t : List α), ∃ r, Move.reverse.apply t = .ok r ∧ Move.reverse.apply r = .ok t) ∧
    ∀ {α : Type} (n : ℕ) (t : List α), t ≠ [] →
      ∃ r, (Move.swapHead n).apply t = .ok r ∧ (Move.swapHead n).apply r = .ok t := by
  refine ⟨fun h _ token hne ↦ ?_, fun t ↦ ⟨_, Move.apply_reverse_reverse t⟩, fun n t ht ↦
    ⟨_, Move.apply_swapHead_swapHead n ht⟩⟩
  obtain ⟨t, hfold, hperm, hundo⟩ := exists_fold?_reverse h hne
  exact ⟨t, outcome_run_eq_ok_iff.2 hfold, hperm, hperm.length_eq, outcome_run_eq_ok_iff.2 hundo⟩

/-- A plan that reverses and exchanges, with numbers above, at and below the length of a token of
three characters. -/
def rearranging : Unscrambler :=
  ⟨⟨[⟨"kT", 8⟩, ⟨"wR", 33⟩, ⟨"kT", 3⟩, ⟨"kT", 1⟩], List.cons_ne_nil _ _⟩,
    .ofList [("wR", .reverse), ("kT", .swapHead)]⟩

theorem run_reversed_rearranging :
    AreLossless rearranging.helpers rearranging.plan.steps ∧
      (∃ t, (rearranging.run "aab".toList).2 = .ok t ∧ t.Perm "aab".toList ∧ t.length = 3 ∧
        (rearranging.reversed.run t).2 = .ok "aab".toList) ∧
      ∃ r, (Move.swapHead 8).apply "aab".toList = .ok r ∧
        (Move.swapHead 8).apply r = .ok "aab".toList := by
  have hlossless : AreLossless rearranging.helpers rearranging.plan.steps :=
    List.forall_mem_cons.2 ⟨⟨_, rfl, .inr rfl⟩, List.forall_mem_cons.2 ⟨⟨_, rfl, .inl rfl⟩,
      List.forall_mem_cons.2 ⟨⟨_, rfl, .inr rfl⟩, List.forall_mem_singleton.2 ⟨_, rfl, .inr rfl⟩⟩⟩⟩
  have hne : "aab".toList ≠ [] := by decide
  obtain ⟨hrun, -, hswap⟩ := run_reversed rearranging
  exact ⟨hlossless, hrun hlossless _ hne, hswap 8 _ hne⟩

end Unscrambler

end Unscramble

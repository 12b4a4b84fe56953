import Mathlib.Data.List.FinRange
import Unscramble.Proofs.Unscrambler.Run

/-!
# A run moves positions

A run never looks at a character. It commutes with renaming the elements of its token (`run_map`),
for renamings between any two types; and every token is a renaming of its own positions. So one run
on the positions `0, 1, …, n - 1` stands for the runs on all tokens of `n` characters: they fail
alike and tell the same trail, or they all keep the same positions in the same order.

Which positions are kept depends on the length and on the moves only. That is `positions`, which
has no helper names in it.

## Main definitions

* `Unscrambler.moves?`: the moves of a plan, if all its helpers are known.
* `Move.positions`: the positions that moves keep of a token of a given length.

## Main statements

* `run_map`: renaming before a run or after it is the same.
* `subperm_of_run`: a run makes nothing up and repeats nothing.
* `run_eq_positions`: one outcome for all tokens of one length.
-/

namespace Unscramble

variable {α β : Type}

namespace Move

/-- The token after moves: the moves folded over it, if all of them can run. -/
def fold? (moves : List Move) (token : List α) : Option (List α) :=
  moves.foldlM (fun t m ↦ (m.apply t).toOption) token

/-- The positions that moves keep of a token with `n` characters, in their new order. -/
def positions (moves : List Move) (n : ℕ) : Option (List (Fin n)) :=
  fold? moves (List.finRange n)

end Move

namespace Unscrambler

/-- The moves of the plan, if all its helpers are known. -/
def moves? (u : Unscrambler) : Option (List Move) :=
  u.plan.steps.mapM u.helpers.move?

/-! ### Renaming -/

theorem runStep_map (f : α → β) (helpers : HelperTable) (c : Call) (token : List α) :
    runStep helpers c (token.map f) =
      (runStep helpers c token).map fun (m, t) ↦ (m, t.map f) := by
  cases hf : helpers.get? c.helper with
  | none =>
    rw [runStep, runStep, resolve, hf]
    rfl
  | some family =>
    rw [runStep_of_get? hf, runStep_of_get? hf, Move.apply_map]
    cases (family.bind c.argument).apply token <;> rfl

theorem runSteps_map (f : α → β) (helpers : HelperTable) (calls : List Call) (index : ℕ)
    (token : List α) :
    runSteps helpers index calls (token.map f) =
      ((runSteps helpers index calls token).1,
        (runSteps helpers index calls token).2.map (List.map f)) := by
  induction calls generalizing index token with
  | nil => rfl
  | cons c cs ih =>
    rw [runSteps, runSteps, runStep_map]
    cases runStep helpers c token with
    | error e => rfl
    | ok r =>
      obtain ⟨m, t⟩ := r
      simp only [Except.map, ih (index + 1) t, List.length_map]

/-- **Renaming.** A run on a renamed token is the run on the token itself, with the outcome renamed;
the trail, a failure and the lengths in it are the same. -/
theorem run_map (f : α → β) (u : Unscrambler) (token : List α) :
    u.run (token.map f) = ((u.run token).1, (u.run token).2.map (List.map f)) :=
  runSteps_map f u.helpers u.plan.steps 0 token

/-- Every token is a renaming of its positions. -/
theorem map_get_finRange (token : List α) {n : ℕ} (h : token.length = n) :
    ((List.finRange n).map fun i ↦ token.get (i.cast h.symm)) = token := by
  subst h
  exact List.ofFn_eq_map.symm.trans (List.ofFn_get token)

/-! ### What is kept -/

theorem subperm_of_fold? {helpers : HelperTable} {calls : List Call} {token t : List α}
    (h : fold? helpers calls token = some t) : t.Subperm token := by
  induction calls generalizing token with
  | nil =>
    obtain rfl : token = t := Option.some.inj h
    exact List.Subperm.refl _
  | cons c cs ih =>
    rw [fold?_cons] at h
    obtain ⟨t', ht', hcs⟩ := Option.bind_eq_some_iff.1 h
    obtain ⟨m, -, happly⟩ := after?_eq_some_iff.1 ht'
    exact (ih hcs).trans (Move.subperm_of_apply happly)

theorem fold?_eq_some_of_run {u : Unscrambler} {token t : List α} (h : (u.run token).2 = .ok t) :
    fold? u.helpers u.plan.steps token = some t := by
  cases hfold : fold? u.helpers u.plan.steps token with
  | some final =>
    have hrun : (u.run token).2 = .ok final := (runSteps_of_fold?_eq_some hfold 0).1
    rw [hrun] at h
    rw [Except.ok.inj h]
  | none =>
    obtain ⟨k, c, before, -, -, -, hrun⟩ := runSteps_of_fold?_eq_none hfold 0
    rw [run, hrun] at h
    cases h

/-- **Nothing made up, nothing repeated.** What a run gives are elements of its token, each at most
as often. -/
theorem subperm_of_run {u : Unscrambler} {token t : List α} (h : (u.run token).2 = .ok t) :
    t.Subperm token :=
  subperm_of_fold? (fold?_eq_some_of_run h)

/-- Calls that all run are known moves, and the moves alone give the same. -/
theorem exists_moves_of_fold? {helpers : HelperTable} {calls : List Call} {token t : List α}
    (h : fold? helpers calls token = some t) :
    ∃ moves, calls.mapM helpers.move? = some moves ∧ Move.fold? moves token = some t := by
  induction calls generalizing token with
  | nil => exact ⟨[], rfl, h⟩
  | cons c cs ih =>
    rw [fold?_cons] at h
    obtain ⟨t', ht', hcs⟩ := Option.bind_eq_some_iff.1 h
    obtain ⟨m, hm, happly⟩ := after?_eq_some_iff.1 ht'
    obtain ⟨ms, hms, hfold⟩ := ih hcs
    refine ⟨m :: ms, by rw [List.mapM_cons, hm, hms]; rfl, ?_⟩
    rw [Move.fold?, List.foldlM_cons, happly]
    exact hfold

/-! ### One outcome for every length -/

/-- **Only positions count.** All tokens of one length fail alike, with one trail; or they keep the
same positions in the same order, no position twice, and these are given by the length and the moves
of the plan. With this go renaming, and that no character occurs more often afterwards. -/
theorem run_eq_positions (u : Unscrambler) (n : ℕ) :
    ((∃ trail failure, ∀ {α : Type} (token : List α), token.length = n →
          u.run token = (trail, .error failure)) ∨
        ∃ trail moves kept, u.moves? = some moves ∧ Move.positions moves n = some kept ∧
          kept.Nodup ∧ ∀ {α : Type} (token : List α) (h : token.length = n),
            u.run token = (trail, .ok (kept.map fun i ↦ token.get (i.cast h.symm)))) ∧
      (∀ (f : Char → Char) (token : List Char),
        u.run (token.map f) = ((u.run token).1, (u.run token).2.map (List.map f))) ∧
      ∀ (token t : List Char), (u.run token).2 = .ok t → ∀ c, t.count c ≤ token.count c := by
  refine ⟨?_, fun f token ↦ run_map f u token, fun token t h c ↦ (subperm_of_run h).count_le c⟩
  -- the run on the positions themselves stands for all
  have hall : ∀ {α : Type} (token : List α) (h : token.length = n),
      u.run token = ((u.run (List.finRange n)).1,
        (u.run (List.finRange n)).2.map (List.map fun i ↦ token.get (i.cast h.symm))) := by
    intro α token h
    rw [← run_map, map_get_finRange token h]
  cases hrun : (u.run (List.finRange n)).2 with
  | error failure =>
    refine .inl ⟨(u.run (List.finRange n)).1, failure, fun token h ↦ ?_⟩
    rw [hall token h, hrun]
    rfl
  | ok kept =>
    obtain ⟨moves, hmoves, hfold⟩ := exists_moves_of_fold? (fold?_eq_some_of_run hrun)
    refine .inr ⟨(u.run (List.finRange n)).1, moves, kept, hmoves, hfold, ?_, fun token h ↦ ?_⟩
    · obtain ⟨kept', hperm, hsub⟩ := subperm_of_run hrun
      exact hperm.nodup_iff.1 (hsub.nodup (List.nodup_finRange n))
    · rw [hall token h, hrun]
      rfl

end Unscrambler

end Unscramble

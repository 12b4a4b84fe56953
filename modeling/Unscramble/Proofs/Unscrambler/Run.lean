import Unscramble.Proofs.Move
import Unscramble.Unscrambler

/-!
# A run is a fold, and its trail tells all of it

`Unscrambler.run` tells a trail while it works and ends at the first call that cannot run. `fold?`
does neither: it looks every helper up and folds the moves over the token, and has no answer if one
step has none. The two are compared here. The outcome of a run is that of the fold, and the trail
gives back what the fold went through, because each of its entries is fixed by the folds over two
neighbouring prefixes of the plan.

Nothing is assumed about the plan, the table or the token: where the fold has no answer, the first
step without one is blamed, with the length that the token has when the step is reached.

## Main definitions

* `fold?`: the moves of calls, folded over a token.
* `blame`: the failure of a call that cannot run.
* `Tells`: a trail is that of calls which all ran.

## Main statements

* `runSteps_of_fold?_eq_some`, `runSteps_of_fold?_eq_none`: the two ways in which calls can go.
* `run_eq_fold?`: both for the whole plan of an unscrambler.
-/

namespace Unscramble

variable {α : Type}

/-- The move that a call stands for, if its helper is known. -/
def HelperTable.move? (helpers : HelperTable) (c : Call) : Option Move :=
  (helpers.get? c.helper).map fun family ↦ family.bind c.argument

namespace Unscrambler

/-- The token after a call, if the call can run. -/
def after? (helpers : HelperTable) (token : List α) (c : Call) : Option (List α) :=
  (helpers.move? c).bind fun m ↦ (m.apply token).toOption

/-- The token after calls: their moves folded from left to right, if all of them can run. -/
def fold? (helpers : HelperTable) (calls : List Call) (token : List α) : Option (List α) :=
  calls.foldlM (after? helpers) token

/-- What is wrong with a call that cannot run on a token of the given length: its helper is
unknown, or else its number is out of range. -/
def blame (helpers : HelperTable) (c : Call) (length : ℕ) : Failure :=
  match helpers.get? c.helper with
  | none => .unknownHelper c.helper
  | some family => .outOfRange ⟨family, c.argument, length⟩

/-- The trail of calls that all ran on a token and left `final`: one entry per call, in order, with
the call's own move. Neighbouring entries agree on the length `len i` that the token has between
them; it is the length after the first `i` calls, that of `token` at the start and of `final` at the
end. -/
def Tells (helpers : HelperTable) (calls : List Call) (token final : List α) (trail : Trail) :
    Prop :=
  ∃ len : ℕ → ℕ, len 0 = token.length ∧ len calls.length = final.length ∧
    trail.length = calls.length ∧
    ∀ i c, calls[i]? = some c → ∃ m before after,
      helpers.move? c = some m ∧ fold? helpers (calls.take i) token = some before ∧
      m.apply before = .ok after ∧ len i = before.length ∧ len (i + 1) = after.length ∧
      trail[i]? = some (.ran i c.helper m (len i) (len (i + 1)))

theorem fold?_cons (helpers : HelperTable) (c : Call) (cs : List Call) (token : List α) :
    fold? helpers (c :: cs) token = (after? helpers token c).bind (fold? helpers cs) := rfl

/-! ### One step -/

theorem after?_eq_some_iff {helpers : HelperTable} {c : Call} {token t : List α} :
    after? helpers token c = some t ↔
      ∃ m, helpers.move? c = some m ∧ m.apply token = .ok t := by
  simp only [after?, Option.bind_eq_some_iff]
  refine exists_congr fun m ↦ and_congr_right fun _ ↦ ?_
  cases m.apply token <;> simp [Except.toOption]

/-- A step whose helper is known depends on what its move does. -/
theorem runStep_of_get? {helpers : HelperTable} {c : Call} {family : Family}
    (hf : helpers.get? c.helper = some family) (token : List α) :
    runStep helpers c token =
      match (family.bind c.argument).apply token with
      | .ok t => .ok (family.bind c.argument, t)
      | .error range => .error (Failure.outOfRange range) := by
  rw [runStep, resolve, hf]
  rfl

/-- A step that can run gives the call's move and the token that the fold goes on with. -/
theorem runStep_of_move? {helpers : HelperTable} {c : Call} {m : Move} {token t : List α}
    (hm : helpers.move? c = some m) (ht : m.apply token = .ok t) :
    runStep helpers c token = .ok (m, t) := by
  obtain ⟨family, hf, rfl⟩ := Option.map_eq_some_iff.1 hm
  rw [runStep_of_get? hf, ht]

/-- A step that cannot run is blamed for it. -/
theorem runStep_of_after?_eq_none {helpers : HelperTable} {c : Call} {token : List α}
    (h : after? helpers token c = none) :
    runStep helpers c token = .error (blame helpers c token.length) := by
  cases hf : helpers.get? c.helper with
  | none =>
    rw [runStep, resolve, hf, blame, hf]
    rfl
  | some family =>
    rw [runStep_of_get? hf, blame, hf]
    cases ht : (family.bind c.argument).apply token with
    | ok t =>
      rw [after?_eq_some_iff.2 ⟨_, by rw [HelperTable.move?, hf]; rfl, ht⟩] at h
      cases h
    | error range => rw [Move.eq_of_apply_bind_eq_error ht]

/-! ### A list of calls -/

theorem runSteps_cons {helpers : HelperTable} {c : Call} {m : Move} {token t : List α}
    (hm : helpers.move? c = some m) (ht : m.apply token = .ok t) (index : ℕ) (cs : List Call) :
    runSteps helpers index (c :: cs) token =
      (.ran index c.helper m token.length t.length :: (runSteps helpers (index + 1) cs t).1,
        (runSteps helpers (index + 1) cs t).2) := by
  rw [runSteps, runStep_of_move? hm ht]

/-- Calls that the fold has an answer for run to that answer, and each tells its own move between
the two prefixes that it stands between. -/
theorem runSteps_of_fold?_eq_some {helpers : HelperTable} {calls : List Call}
    {token final : List α} (h : fold? helpers calls token = some final) (index : ℕ) :
    (runSteps helpers index calls token).2 = .ok final ∧
      (runSteps helpers index calls token).1.length = calls.length ∧
      ∀ i c, calls[i]? = some c → ∃ m before after,
        helpers.move? c = some m ∧ fold? helpers (calls.take i) token = some before ∧
        m.apply before = .ok after ∧ fold? helpers (calls.take (i + 1)) token = some after ∧
        (runSteps helpers index calls token).1[i]? =
          some (.ran (index + i) c.helper m before.length after.length) := by
  -- the fold over a prefix starts from `token`, so the first call is put in front of each prefix
  induction calls generalizing index token with
  | nil =>
    obtain rfl : token = final := Option.some.inj h
    exact ⟨rfl, rfl, fun i c hc ↦ by simp at hc⟩
  | cons d ds ih =>
    rw [fold?_cons] at h
    obtain ⟨t, ht, hds⟩ := Option.bind_eq_some_iff.1 h
    obtain ⟨m, hm, happly⟩ := after?_eq_some_iff.1 ht
    obtain ⟨hout, hlen, htold⟩ := ih hds (index + 1)
    rw [runSteps_cons hm happly]
    refine ⟨hout, by rw [List.length_cons, List.length_cons, hlen], fun i c hc ↦ ?_⟩
    cases i with
    | zero =>
      obtain rfl : d = c := by simpa using hc
      refine ⟨m, token, t, hm, rfl, happly, ?_, rfl⟩
      rw [List.take_succ_cons, List.take_zero, fold?_cons, ht]
      rfl
    | succ i =>
      obtain ⟨m', before, after, hm', hbefore, happly', hafter, hentry⟩ :=
        htold i c (by simpa using hc)
      refine ⟨m', before, after, hm', ?_, happly', ?_, ?_⟩
      · rw [List.take_succ_cons, fold?_cons, ht]
        exact hbefore
      · rw [List.take_succ_cons, fold?_cons, ht]
        exact hafter
      · rw [List.getElem?_cons_succ, hentry, show index + 1 + i = index + (i + 1) by omega]

theorem tells_of_fold?_eq_some {helpers : HelperTable} {calls : List Call} {token final : List α}
    (h : fold? helpers calls token = some final) :
    Tells helpers calls token final (runSteps helpers 0 calls token).1 := by
  obtain ⟨-, hlen, htold⟩ := runSteps_of_fold?_eq_some h 0
  -- the length between two entries is that of the fold over the calls before
  refine ⟨fun i ↦ ((fold? helpers (calls.take i) token).map List.length).getD 0, rfl, ?_, hlen,
    fun i c hc ↦ ?_⟩
  · simp only [List.take_length, h]
    rfl
  · obtain ⟨m, before, after, hm, hbefore, happly, hafter, hentry⟩ := htold i c hc
    refine ⟨m, before, after, hm, hbefore, happly, ?_, ?_, ?_⟩
    · simp only [hbefore]
      rfl
    · simp only [hafter]
      rfl
    · simp only [hbefore, hafter, hentry, Nat.zero_add]
      rfl

/-- Calls that the fold has no answer for run up to the first that has none. It fails, and tells so
after what the calls before it told. -/
theorem runSteps_of_fold?_eq_none {helpers : HelperTable} {calls : List Call} {token : List α}
    (h : fold? helpers calls token = none) (index : ℕ) :
    ∃ k c before, calls[k]? = some c ∧ fold? helpers (calls.take k) token = some before ∧
      after? helpers before c = none ∧
      runSteps helpers index calls token =
        ((runSteps helpers index (calls.take k) token).1 ++
            [.failed (index + k) c.helper (blame helpers c before.length).message],
          .error (blame helpers c before.length)) := by
  induction calls generalizing index token with
  | nil => cases h
  | cons d ds ih =>
    -- either the first call is the one without an answer, or the others have it
    cases ht : after? helpers token d with
    | none =>
      refine ⟨0, d, token, rfl, rfl, ht, ?_⟩
      rw [runSteps, runStep_of_after?_eq_none ht]
      rfl
    | some t =>
      rw [fold?_cons, ht] at h
      obtain ⟨k, c, before, hc, hbefore, hnone, hrun⟩ := ih h (index + 1)
      obtain ⟨m, hm, happly⟩ := after?_eq_some_iff.1 ht
      refine ⟨k + 1, c, before, by simpa using hc, ?_, hnone, ?_⟩
      · rw [List.take_succ_cons, fold?_cons, ht]
        exact hbefore
      · rw [List.take_succ_cons, runSteps_cons hm happly, runSteps_cons hm happly, hrun,
          show index + 1 + k = index + (k + 1) by omega]
        rfl

/-! ### The whole plan -/

/-- **A run is the fold of its plan, and its trail tells all of it.** Where the fold has an answer,
the run gives that answer and one entry per step. Otherwise there is a first step that cannot run:
the run fails with what that step is blamed for, and its trail is that of the steps before it and
then one entry for the failure. -/
theorem run_eq_fold? (u : Unscrambler) (token : List α) :
    (∃ final, fold? u.helpers u.plan.steps token = some final ∧
        (u.run token).2 = .ok final ∧
        Tells u.helpers u.plan.steps token final (u.run token).1) ∨
      (fold? u.helpers u.plan.steps token = none ∧
        ∃ k c before ran, u.plan.steps[k]? = some c ∧
          fold? u.helpers (u.plan.steps.take k) token = some before ∧
          after? u.helpers before c = none ∧
          Tells u.helpers (u.plan.steps.take k) token before ran ∧
          u.run token = (ran ++ [.failed k c.helper (blame u.helpers c before.length).message],
            .error (blame u.helpers c before.length))) := by
  cases h : fold? u.helpers u.plan.steps token with
  | some final =>
    exact .inl ⟨final, rfl, (runSteps_of_fold?_eq_some h 0).1, tells_of_fold?_eq_some h⟩
  | none =>
    obtain ⟨k, c, before, hc, hbefore, hnone, hrun⟩ := runSteps_of_fold?_eq_none h 0
    rw [Nat.zero_add] at hrun
    exact .inr ⟨rfl, k, c, before, _, hc, hbefore, hnone, tells_of_fold?_eq_some hbefore, hrun⟩

end Unscrambler

end Unscramble

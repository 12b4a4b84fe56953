import Unscramble.Proofs.Plan.Calls
import Unscramble.Proofs.Unscrambler.Run

/-!
# Plans run one after another

A step knows the steps before it only by the token that they left and by how many they are. So the
plan `p ++ q` is run by running `p`, and then `q` on what `p` left, as if `q` had begun with the
index `p.steps.length`; if `p` fails, `q` is not begun. A run that begins with a later index tells
the same trail with later indices, and has the same outcome.

Texts are cut as plans are: a semicolon belongs to no statement, so the statements of a text are
those in front of any semicolon and then those behind it. If the text is a plan and there is a
statement on either side, both sides are plans.

## Main definitions

* `Plan.append`: one plan and then another.
* `Decision.shift`: a decision with a later index.
* `andThen`: a run, and one on what it leaves.
* `Unscrambler.runString`: a run on the characters of a string.

## Main statements

* `runSteps_add`: a run from a later index on.
* `runSteps_append`: the calls of two lists.
* `Plan.exists_append_of_read`: the plans on the two sides of a semicolon.
* `run_append`: plans compose.
-/

namespace Unscramble

open Unscramble.Text

variable {α : Type}

/-! ### Trails -/

/-- The same decision about a step, with an index that is greater by `k`. -/
def Decision.shift (k : ℕ) : Decision → Decision
  | .ran index helper move before after => .ran (index + k) helper move before after
  | .failed index helper reason => .failed (index + k) helper reason
  | d => d

/-- Run on what a run of `k` steps left. If it left nothing, its trail and its failure stand; if it
did, the trail of the second run follows, with the indices of steps behind the first `k`. -/
def andThen {σ τ : Type} (k : ℕ) (first : Trail × Except Failure σ)
    (second : σ → Trail × Except Failure τ) : Trail × Except Failure τ :=
  match first with
  | (trail, .ok t) => (trail ++ (second t).1.map (Decision.shift k), (second t).2)
  | (trail, .error e) => (trail, .error e)

/-! ### Plans -/

namespace Plan

/-- The steps of one plan and then those of another. -/
def append (p q : Plan) : Plan :=
  ⟨p.steps ++ q.steps, List.append_ne_nil_of_left_ne_nil p.steps_ne_nil q.steps⟩

instance : Append Plan :=
  ⟨append⟩

end Plan

/-- **A plan text is cut into plan texts** at any semicolon that has statements on both sides, and
the plan of the whole is that of the left side and then that of the right side. -/
theorem Plan.exists_append_of_read {left right : List Char} {plan : Plan}
    (h : Plan.read (left ++ ';' :: right) = .ok plan) (hleft : statements left ≠ [])
    (hright : statements right ≠ []) :
    ∃ p q, Plan.read left = .ok p ∧ Plan.read right = .ok q ∧ p ++ q = plan := by
  have hsteps := mapM_of_read h
  rw [statements_append_semicolon, List.mapM_append] at hsteps
  rcases hps : (statements left).mapM Call.read with e | ps
  · rw [hps] at hsteps
    cases hsteps
  rcases hqs : (statements right).mapM Call.read with e | qs
  · rw [hps, hqs] at hsteps
    cases hsteps
  rw [hps, hqs] at hsteps
  have hplan : ps ++ qs = plan.steps := Except.ok.inj hsteps
  refine ⟨_, _, read_of_statements (ne_nil_of_forall₂ (mapM_eq_ok_iff.1 hps) hleft) hps,
    read_of_statements (ne_nil_of_forall₂ (mapM_eq_ok_iff.1 hqs) hright) hqs, ?_⟩
  obtain ⟨steps, hne⟩ := plan
  subst hplan
  rfl

namespace Unscrambler

/-! ### Calls -/

/-- **A run from a later index on** has the same outcome, and its trail has later indices. -/
theorem runSteps_add (helpers : HelperTable) (k index : ℕ) (calls : List Call) (token : List α) :
    runSteps helpers (index + k) calls token =
      ((runSteps helpers index calls token).1.map (Decision.shift k),
        (runSteps helpers index calls token).2) := by
  induction calls generalizing index token with
  | nil => rfl
  | cons c cs ih =>
    rw [runSteps, runSteps]
    rcases runStep helpers c token with e | ⟨m, t⟩
    · rfl
    · simp only [Nat.add_right_comm index k 1, ih (index + 1) t]
      rfl

/-- **The calls of two lists** run as those of the first, and then those of the second on what the
first left, with the indices that follow. -/
theorem runSteps_append (helpers : HelperTable) (index : ℕ) (cs ds : List Call)
    (token : List α) :
    runSteps helpers index (cs ++ ds) token =
      andThen (index + cs.length) (runSteps helpers index cs token) (runSteps helpers 0 ds) := by
  induction cs generalizing index token with
  | nil =>
    rw [List.nil_append, ← Nat.zero_add index, runSteps_add]
    simp [andThen, runSteps]
  | cons c cs ih =>
    rw [List.cons_append, runSteps, runSteps]
    rcases runStep helpers c token with e | ⟨m, t⟩
    · rfl
    · have hindex : index + (c :: cs).length = index + 1 + cs.length := by
        rw [List.length_cons]
        omega
      simp only [ih (index + 1) t, hindex]
      rcases runSteps helpers (index + 1) cs t with ⟨trail, e | t'⟩ <;> rfl

/-! ### Plans -/

/-- Run the plan on the characters of a string, and write what is left as a string. -/
def runString (u : Unscrambler) (token : String) : Trail × Except Failure String :=
  ((u.run token.toList).1, (u.run token.toList).2.map String.ofList)

theorem run_plan_append (helpers : HelperTable) (p q : Plan) (token : List α) :
    run ⟨p ++ q, helpers⟩ token =
      andThen p.steps.length (run ⟨p, helpers⟩ token) (run ⟨q, helpers⟩) := by
  show runSteps helpers 0 (p.steps ++ q.steps) token = _
  rw [runSteps_append, Nat.zero_add]
  rfl

/-- **Plans compose.** With any helpers, the plan `p ++ q` runs as `p` and then, if `p` succeeds,
`q` on what `p` left, and the indices of the steps of `q` are behind those of `p`. This holds for
tokens and for strings, in which the token that `p` leaves is written and read again. A plan text
that is cut at a semicolon with statements on both sides is cut into texts of two plans, which the
plan of the whole text is put together from. -/
theorem run_append (helpers : HelperTable) :
    (∀ {α : Type} (p q : Plan) (token : List α), run ⟨p ++ q, helpers⟩ token =
      andThen p.steps.length (run ⟨p, helpers⟩ token) (run ⟨q, helpers⟩)) ∧
    (∀ (p q : Plan) (token : String), runString ⟨p ++ q, helpers⟩ token =
      andThen p.steps.length (runString ⟨p, helpers⟩ token) (runString ⟨q, helpers⟩)) ∧
    ∀ (left right : List Char) (plan : Plan), Plan.read (left ++ ';' :: right) = .ok plan →
      statements left ≠ [] → statements right ≠ [] →
      ∃ p q, Plan.read left = .ok p ∧ Plan.read right = .ok q ∧ p ++ q = plan := by
  refine ⟨run_plan_append helpers, fun p q token ↦ ?_,
    fun left right plan h hleft hright ↦ Plan.exists_append_of_read h hleft hright⟩
  rw [runString, run_plan_append, runString]
  rcases run ⟨p, helpers⟩ token.toList with ⟨trail, e | t⟩
  · rfl
  · -- what `q` reads is what `p` wrote
    show _ = (trail ++ (run ⟨q, helpers⟩ (String.ofList t).toList).1.map _, Except.map _
      (run ⟨q, helpers⟩ (String.ofList t).toList).2)
    rw [String.toList_ofList]
    rfl

/-- A text of two calls with blanks around them, cut at a semicolon between the calls. -/
theorem run_append_twoCalls :
    ∃ plan, Plan.read (" ;Qr.kT(a,2)".toList ++ ';' :: " ;Qr.wR(a,33);".toList) = .ok plan ∧
      statements " ;Qr.kT(a,2)".toList ≠ [] ∧ statements " ;Qr.wR(a,33);".toList ≠ [] ∧
      ∃ p q, Plan.read " ;Qr.kT(a,2)".toList = .ok p ∧
        Plan.read " ;Qr.wR(a,33);".toList = .ok q ∧ p ++ q = plan := by
  have hstatements : statements (" ;Qr.kT(a,2)".toList ++ ';' :: " ;Qr.wR(a,33);".toList) =
      [keptCall.text [], droppedCall.text []] := by decide
  have hread : (statements (" ;Qr.kT(a,2)".toList ++ ';' :: " ;Qr.wR(a,33);".toList)).mapM
      Call.read = .ok [⟨"kT", 2⟩, ⟨"wR", 33⟩] := by
    rw [hstatements, List.mapM_cons, List.mapM_cons,
      Call.read_of_argument (keptCall.read_text []) (n := 2) (by decide),
      Call.read_of_argument (droppedCall.read_text []) (n := 33) (by decide)]
    rfl
  have hplan := Plan.read_of_statements (List.cons_ne_nil _ _) hread
  have hleft : statements " ;Qr.kT(a,2)".toList ≠ [] := by decide
  have hright : statements " ;Qr.wR(a,33);".toList ≠ [] := by decide
  exact ⟨_, hplan, hleft, hright, (run_append .empty).2.2 _ _ _ hplan hleft hright⟩

end Unscrambler

end Unscramble

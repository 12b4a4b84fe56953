import Unscramble.HelperTable
import Unscramble.Lookup
import Unscramble.Plan

/-!
# Unscramblers

An *unscrambler* is what is learnt from one script: the plan of its entry routine, and the helpers
that the plan calls. Running it on a token runs the moves of the plan from left to right.

Running tells a trail: one decision per step that ran, and one for the step that could not run, if
there is one. Steps look at neither names nor earlier steps once their moves are known, so a run can
also be seen as the run of a list of moves.

## Main definitions

* `Unscrambler.read`: learn the unscrambler of a script.
* `Unscrambler.run`: run it on a token.
-/

namespace Unscramble

open Unscramble.Text

/-- The plan and the helpers of a script. -/
structure Unscrambler where
  plan : Plan
  helpers : HelperTable

namespace Unscrambler

/-- Learn the unscrambler of a script: find the entry routine, then the statements of its plan, then
the object that the first of them calls its helper on. -/
def read (lookups : Lookups) (script : List Char) : Attempt Failure Unscrambler := do
  if (trim script).isEmpty then .fail .emptyScript
  else
    let entry ← lookups.entryName script
    .note (.entryFound (String.ofList entry))
    let planText ← lookups.planText script entry
    let plan ← .ofExcept (Plan.read planText)
    let object ← .ofExcept (objectName planText)
    let tableText ← lookups.tableText script object
    let helpers ← HelperTable.read tableText
    .note (.planBuilt (String.ofList entry) (String.ofList object) plan.steps.length helpers.size)
    return ⟨plan, helpers⟩

variable {α : Type}

/-- The move of a call, if its helper is known. -/
def resolve (helpers : HelperTable) (c : Call) : Except Failure Move :=
  match helpers.get? c.helper with
  | some family => .ok (family.bind c.argument)
  | none => .error (.unknownHelper c.helper)

/-- Run one call on a token, and tell its move. -/
def runStep (helpers : HelperTable) (c : Call) (token : List α) :
    Except Failure (Move × List α) := do
  let move ← resolve helpers c
  match move.apply token with
  | .ok after => return (move, after)
  | .error range => .error (.outOfRange range)

/-- Run calls on a token, the first of which has the given index. The first call that cannot run
ends the run, and no token is given. -/
def runSteps (helpers : HelperTable) : (index : Nat) → List Call → List α →
    Trail × Except Failure (List α)
  | _, [], token => ([], .ok token)
  | index, c :: cs, token =>
    match runStep helpers c token with
    | .error e => ([.failed index c.helper e.message], .error e)
    | .ok (move, after) =>
      let (trail, outcome) := runSteps helpers (index + 1) cs after
      (.ran index c.helper move token.length after.length :: trail, outcome)

/-- Run the plan on a token: the trail, and the token at the end or the failure of a step. -/
def run (u : Unscrambler) (token : List α) : Trail × Except Failure (List α) :=
  runSteps u.helpers 0 u.plan.steps token

/-- Run the plan on a text, and note the decisions. -/
def runText (u : Unscrambler) (token : List Char) : Attempt Failure (List Char) :=
  let (trail, outcome) := u.run token
  ⟨trail.map .decided, outcome⟩

end Unscrambler

end Unscramble

import Unscramble.Failure

/-!
# Decisions

What was tried and decided while a plan was found or run, one value per decision, and its wording. A
list of decisions is a *trail*. Steps and recognizers are counted from zero in a decision and from
one in its wording.
-/

namespace Unscramble

/-- One decision made while finding or running a plan. -/
inductive Decision
  /-- A recognizer was tried. -/
  | tried (stage : Stage) (index : Nat) (name : String) (matched : Bool)
  /-- A helper's body was classified; `none` if it is none of the known moves. -/
  | classified (helper : String) (family : Option Family)
  /-- A step of the plan ran. -/
  | ran (index : Nat) (helper : String) (move : Move) (before after : Nat)
  /-- A step of the plan could not run, which ended the run. -/
  | failed (index : Nat) (helper : String) (reason : String)
  deriving DecidableEq, Repr

/-- Decisions in the order in which they were made. -/
abbrev Trail := List Decision

/-- The wording of a decision. -/
def Decision.text : Decision → String
  | tried stage index name matched =>
    let outcome := if matched then "matched" else "no match"
    s!"{stage.name} pattern #{index + 1} ({name}): {outcome}"
  | classified helper (some family) => s!"helper {helper} => {family.name}"
  | classified helper none => s!"helper {helper} => unknown shape"
  | ran index helper move before after =>
    s!"step {index + 1}: {helper} as {move.text} ({before} -> {after} chars)"
  | failed index helper reason => s!"step {index + 1}: {helper} failed: {reason}"

end Unscramble

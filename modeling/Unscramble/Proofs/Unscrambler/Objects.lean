import Unscramble.Proofs.HelperTable.Layout
import Unscramble.Proofs.Plan.Calls
import Unscramble.Proofs.Unscrambler.PlayerScript

/-!
# On which object a step is resolved

Each statement of a plan text calls its helper on an object, and a step keeps the helper and the
number of its call, but not the object. There is one table only, read from the object on which the
first statement calls its helper, and every step is looked up in it by the name of its helper. So a
step is resolved on the object it was called on if that is the object of the first statement. If it
is another object, nothing is noticed: the same name in the first object counts, and the other
object is not even looked for.

## Main definitions

* `CallsOf`: the calls of the statements of a plan text, with their objects.
* `CallParts.IsStep`: the step for a call, which leaves out the object.
* `Unscrambler.Finds`: what a build finds on its way to an unscrambler.
* `Unscrambler.ResolvesOn`: what a step resolves to in the table of an object.

## Main statements

* `Plan.read_eq_ok_iff`: a plan has one step for each call.
* `Unscrambler.outcome_read_eq_ok_iff`: a build succeeds exactly if it finds all it looks for.
* `Unscrambler.resolvesOn_first_object`: every step is resolved on the object of the first
  statement, and the objects of later statements change nothing.
-/

namespace Unscramble

open Unscramble.Text Unscramble.Pattern

/-! ### Calls and steps -/

/-- The step for a call: its helper and its number, without the object. -/
def CallParts.IsStep (p : CallParts) (step : Call) : Prop :=
  step.helper = String.ofList p.helper ∧ argument? p.digits = some step.argument

/-- Calls of the same helper with the same digits, on whatever objects. -/
def CallParts.SameCall (p p' : CallParts) : Prop :=
  p.helper = p'.helper ∧ p.digits = p'.digits

/-- The calls of the statements of a plan text. -/
def CallsOf (text : List Char) (calls : List CallParts) : Prop :=
  List.Forall₂ (fun s p ↦ CallParts.read s = .ok p) (statements text) calls

theorem CallParts.SameCall.isStep {p p' : CallParts} {step : Call} (h : p.SameCall p')
    (hstep : p.IsStep step) : p'.IsStep step := by
  rw [IsStep, ← h.1, ← h.2]
  exact hstep

/-- The same calls on other objects have the same steps. -/
theorem forall₂_isStep_of_sameCall {calls calls' : List CallParts} {steps : List Call}
    (h : List.Forall₂ CallParts.SameCall calls calls')
    (hsteps : List.Forall₂ CallParts.IsStep calls steps) :
    List.Forall₂ CallParts.IsStep calls' steps := by
  induction h generalizing steps with
  | nil => exact hsteps
  | cons hp _ ih =>
    rcases hsteps with - | ⟨hstep, hlater⟩
    exact .cons (hp.isStep hstep) (ih hlater)

/-- A statement is read as the step for its call. -/
theorem Call.read_eq_ok_iff {s : List Char} {step : Call} :
    Call.read s = .ok step ↔ ∃ p, CallParts.read s = .ok p ∧ p.IsStep step := by
  constructor
  · intro h
    rcases hparts : CallParts.read s with e | p
    · rw [Call.read, hparts] at h
      cases h
    · rw [Call.read_of_parts hparts] at h
      rcases hn : argument? p.digits with - | n
      · rw [hn] at h
        cases h
      · rw [hn] at h
        obtain rfl := Except.ok.inj h
        exact ⟨p, rfl, rfl, hn⟩
  · rintro ⟨p, hparts, hhelper, hn⟩
    rw [Call.read_of_argument hparts hn, ← hhelper]

/-- Statements are read as the steps for their calls. -/
theorem forall₂_read_iff {ss : List (List Char)} {steps : List Call} :
    List.Forall₂ (fun s step ↦ Call.read s = .ok step) ss steps ↔
      ∃ calls, List.Forall₂ (fun s p ↦ CallParts.read s = .ok p) ss calls ∧
        List.Forall₂ CallParts.IsStep calls steps := by
  constructor
  · intro h
    induction h with
    | nil => exact ⟨[], .nil, .nil⟩
    | cons hs _ ih =>
      obtain ⟨p, hp, hstep⟩ := Call.read_eq_ok_iff.1 hs
      obtain ⟨calls, hcalls, hlater⟩ := ih
      exact ⟨p :: calls, .cons hp hcalls, .cons hstep hlater⟩
  · rintro ⟨calls, hcalls, hsteps⟩
    induction hcalls generalizing steps with
    | nil =>
      cases hsteps
      exact .nil
    | cons hp _ ih =>
      rcases hsteps with - | ⟨hstep, hlater⟩
      exact .cons (Call.read_eq_ok_iff.2 ⟨_, hp, hstep⟩) (ih hlater)

/-- **A plan has one step for each call** of its text, whatever the objects are. -/
theorem Plan.read_eq_ok_iff {text : List Char} {plan : Plan} :
    Plan.read text = .ok plan ↔
      ∃ calls, CallsOf text calls ∧ List.Forall₂ CallParts.IsStep calls plan.steps := by
  constructor
  · intro h
    exact forall₂_read_iff.1 (forall₂_of_read h)
  · intro h
    have hsteps : List.Forall₂ (fun s step ↦ Call.read s = .ok step) (statements text) plan.steps :=
      forall₂_read_iff.2 h
    exact read_of_statements plan.steps_ne_nil (mapM_eq_ok_iff.2 hsteps)

/-- The object of a plan text is that of its first call. -/
theorem objectName_of_calls {text : List Char} {first : CallParts} {later : List CallParts}
    (h : CallsOf text (first :: later)) : objectName text = .ok first.object := by
  rw [CallsOf, List.forall₂_cons_right_iff] at h
  obtain ⟨s, ss, hs, -, hstatements⟩ := h
  rw [objectName, hstatements]
  exact congrArg (Except.map CallParts.object) hs

namespace Unscrambler

variable {l : Lookups} {script : List Char} {u : Unscrambler}

/-! ### What a build finds -/

/-- What a build finds on its way to an unscrambler: the name of the entry routine, its plan text
with the calls in it, and the members of the object on which the first of them calls its helper. -/
structure Finds (l : Lookups) (script entry planText : List Char) (first : CallParts)
    (later : List CallParts) (row : List Char) (u : Unscrambler) : Prop where
  entryName_eq : (l.entryName script).outcome = .ok entry
  planText_eq : (l.planText script entry).outcome = .ok planText
  callsOf : CallsOf planText (first :: later)
  isStep : List.Forall₂ CallParts.IsStep (first :: later) u.plan.steps
  tableText_eq : (l.tableText script first.object).outcome = .ok row
  read_eq : (HelperTable.read row).outcome = .ok u.helpers

theorem Finds.outcome_read {entry planText row : List Char} {first : CallParts}
    {later : List CallParts} (h : Finds l script entry planText first later row u)
    (hscript : ¬ script.all isBlank = true) : (read l script).outcome = .ok u := by
  have hplan : Plan.read planText = .ok u.plan :=
    Plan.read_eq_ok_iff.2 ⟨first :: later, h.callsOf, h.isStep⟩
  rw [outcome_read_of_entryName hscript h.entryName_eq,
    outcome_planStage_of_ok h.planText_eq hplan (objectName_of_calls h.callsOf),
    (tableStage_of_ok h.tableText_eq).2, h.read_eq]
  rfl

/-- **A build that succeeds** has found all that it looked for. -/
theorem exists_finds (h : (read l script).outcome = .ok u) :
    ¬ script.all isBlank = true ∧
      ∃ entry planText first later row, Finds l script entry planText first later row u := by
  have hscript : ¬ script.all isBlank = true := by
    intro hblank
    cases h.symm.trans (read_of_all_isBlank hblank).2
  refine ⟨hscript, ?_⟩
  rcases hentry : (l.entryName script).outcome with e | entry
  · rw [read_eq hscript, Attempt.outcome_bind_error hentry] at h
    cases h
  rw [outcome_read_of_entryName hscript hentry] at h
  rcases htext : (l.planText script entry).outcome with e | planText
  · cases h.symm.trans (outcome_planStage_of_error htext)
  rcases hplan : Plan.read planText with e | plan
  · rw [planStage, Attempt.outcome_bind_ok htext, hplan] at h
    cases h
  obtain ⟨calls, hcalls, hsteps⟩ := Plan.read_eq_ok_iff.1 hplan
  obtain ⟨first, later, rfl⟩ : ∃ first later, calls = first :: later := by
    refine List.exists_cons_of_ne_nil ?_
    rintro rfl
    exact plan.steps_ne_nil (List.forall₂_nil_left_iff.1 hsteps)
  have hobject := objectName_of_calls hcalls
  rw [outcome_planStage_of_ok htext hplan hobject] at h
  rcases hrow : (l.tableText script first.object).outcome with e | row
  · cases h.symm.trans (outcome_tableStage_of_error hrow)
  rw [(tableStage_of_ok hrow).2] at h
  rcases hread : (HelperTable.read row).outcome with e | helpers
  · rw [hread] at h
    cases h
  · rw [hread] at h
    obtain rfl := Except.ok.inj h
    exact ⟨entry, planText, first, later, row, hentry, htext, hcalls, hsteps, hrow, hread⟩

/-! ### Where steps are resolved -/

/-- What a step resolves to in the table of an object. -/
def ResolvesOn (l : Lookups) (script object : List Char) (step : Call)
    (result : Except Failure Move) : Prop :=
  ∃ row helpers, (l.tableText script object).outcome = .ok row ∧
    (HelperTable.read row).outcome = .ok helpers ∧ resolve helpers step = result

/-- A step resolves to one thing only. -/
theorem ResolvesOn.iff_of_read {object row : List Char} {helpers : HelperTable}
    (htable : (l.tableText script object).outcome = .ok row)
    (hread : (HelperTable.read row).outcome = .ok helpers) {step : Call}
    {result : Except Failure Move} :
    ResolvesOn l script object step result ↔ resolve helpers step = result := by
  constructor
  · rintro ⟨row', helpers', htable', hread', hresolve⟩
    obtain rfl := Except.ok.inj (htable.symm.trans htable')
    obtain rfl := Except.ok.inj (hread.symm.trans hread')
    exact hresolve
  · intro hresolve
    exact ⟨row, helpers, htable, hread, hresolve⟩

/-- **Every step is resolved on the object of the first statement.** A plan has one step for each
statement, with the helper and the number of its call, and steps are looked up in the table of the
object on which the first statement calls its helper. The objects of later statements are not
looked at: another script with the same calls on other objects gives the same unscrambler. -/
theorem resolvesOn_first_object (h : (read l script).outcome = .ok u) :
    ∃ entry planText first later, (l.entryName script).outcome = .ok entry ∧
      (l.planText script entry).outcome = .ok planText ∧
      CallsOf planText (first :: later) ∧
      List.Forall₂ CallParts.IsStep (first :: later) u.plan.steps ∧
      (∀ step result, ResolvesOn l script first.object step result ↔
        resolve u.helpers step = result) ∧
      ∀ script' entry' planText' later', ¬ script'.all isBlank = true →
        (l.entryName script').outcome = .ok entry' →
        (l.planText script' entry').outcome = .ok planText' →
        CallsOf planText' (first :: later') → List.Forall₂ CallParts.SameCall later later' →
        (l.tableText script' first.object).outcome = (l.tableText script first.object).outcome →
        (read l script').outcome = .ok u := by
  obtain ⟨-, entry, planText, first, later, row, hfinds⟩ := exists_finds h
  refine ⟨entry, planText, first, later, hfinds.entryName_eq, hfinds.planText_eq, hfinds.callsOf,
    hfinds.isStep, fun step result ↦ ?_, ?_⟩
  · exact ResolvesOn.iff_of_read hfinds.tableText_eq hfinds.read_eq
  · intro script' entry' planText' later' hscript hentry htext hcalls hsame htable
    have hsteps := forall₂_isStep_of_sameCall (.cons ⟨rfl, rfl⟩ hsame) hfinds.isStep
    exact Finds.outcome_read ⟨hentry, htext, hcalls, hsteps, htable.trans hfinds.tableText_eq,
      hfinds.read_eq⟩ hscript

/-! ### A plan that mixes objects -/

/-- A script in which two objects have a helper `wR`, and a routine calls one on each. -/
def mixedScript : String :=
  "var Qr=\x7bwR:function(a)\x7ba.reverse()\x7d\x7d;\n" ++
    ("var Zz=\x7bwR:function(a,b)\x7ba.splice(0,b)\x7d\x7d;\n" ++
    ("Xy=function(a)\x7ba=a.split(\"\");Qr.wR(a,1);Zz.wR(a,2);return a.join(\"\")\x7d;\n" ++
    "var w=function(c,a,d)\x7bc&&a.set(d,encodeURIComponent(Xy(decodeURIComponent(c.s))))\x7d;"))

/-- The characters of that script. -/
def mixedText : Spelled mixedScript :=
  .append (.of rfl) (.append (.of rfl) (.append (.of rfl) (.of rfl)))

/-- The calls of its routine. -/
def mixedCalls : CallParts × CallParts :=
  (⟨['Q', 'r'], ['w', 'R'], ['1']⟩, ⟨['Z', 'z'], ['w', 'R'], ['2']⟩)

/-- The plan text of its routine. -/
def mixedPlanText : List Char :=
  "Qr.wR(a,1);Zz.wR(a,2)".toList

/-- The helper of the second object. -/
def droppingHelper : WrittenHelper where
  name := reversingHelper.name
  params := pushingHelper.params
  body := ['a', '.', 's', 'p', 'l', 'i', 'c', 'e', '(', '0', ',', 'b', ')']
  notMem_params := pushingHelper.notMem_params
  notMem_body := by decide

theorem entryName_mixed :
    (Lookups.standard.entryName mixedText.chars).outcome = .ok ['X', 'y'] := by
  refine Lookup.outcome_run_of_captured (r := entryUsual) ?_ _
  rw [Recognizer.recognize_of_read read_entryUsual]
  decide +kernel

theorem planText_mixed :
    (Lookups.standard.planText mixedText.chars ['X', 'y']).outcome = .ok mixedPlanText := by
  refine Lookup.outcome_run_of_captured (r := planAssigned) ?_ _
  rw [Recognizer.recognize_of_gapped (planAssigned_patternText _) (by decide) rfl]
  decide +kernel

theorem tableText_mixed :
    (Lookups.standard.tableText mixedText.chars ['Q', 'r']).outcome = .ok reversingHelper.text ∧
      (Lookups.standard.tableText mixedText.chars ['Z', 'z']).outcome =
        .ok droppingHelper.text := by
  constructor <;>
  · refine Lookup.outcome_run_of_captured (r := tableVar) ?_ _
    rw [Recognizer.recognize_of_gapped (tableVar_patternText _) (by decide) rfl]
    decide +kernel

theorem read_mixed : (HelperTable.read reversingHelper.text).outcome =
      .ok (.ofList [("wR", .reverse)]) ∧
    (HelperTable.read droppingHelper.text).outcome = .ok (.ofList [("wR", .dropMiddle)]) := by
  constructor
  · refine reversingHelper.outcome_read_single ?_
    rw [classify_eq]
    rfl
  · refine droppingHelper.outcome_read_single ?_
    rw [classify_eq]
    rfl

theorem callsOf_mixed : CallsOf mixedPlanText [mixedCalls.1, mixedCalls.2] := by
  have hstatements : statements mixedPlanText =
      ["Qr.wR(a,1)".toList, "Zz.wR(a,2)".toList] := by decide
  rw [CallsOf, hstatements]
  refine .cons ?_ (.cons ?_ .nil) <;>
  · rw [CallParts.read, callPattern_eq]
    rfl

/-- What is learnt from the script. -/
def mixedLearnt : Unscrambler :=
  ⟨⟨[⟨"wR", 1⟩, ⟨"wR", 2⟩], List.cons_ne_nil _ _⟩, .ofList [("wR", .reverse)]⟩

theorem finds_mixed : Finds .standard mixedText.chars ['X', 'y'] mixedPlanText mixedCalls.1
    [mixedCalls.2] reversingHelper.text mixedLearnt where
  entryName_eq := entryName_mixed
  planText_eq := planText_mixed
  callsOf := callsOf_mixed
  isStep := .cons ⟨rfl, by decide⟩ (.cons ⟨rfl, by decide⟩ .nil)
  tableText_eq := tableText_mixed.1
  read_eq := read_mixed.1

theorem outcome_read_mixed : (read .standard mixedText.chars).outcome = .ok mixedLearnt :=
  finds_mixed.outcome_read (by decide)

/-- In this script too, both steps are resolved on the first object. -/
theorem resolvesOn_first_object_mixed :
    (read .standard mixedScript.toList).outcome = .ok mixedLearnt ∧
      ∃ first later, CallsOf mixedPlanText (first :: later) ∧
        ResolvesOn .standard mixedScript.toList first.object ⟨"wR", 2⟩ (.ok .reverse) := by
  rw [mixedText.toList_eq]
  obtain ⟨entry, planText, first, later, hentry, htext, hcalls, -, hresolve, -⟩ :=
    resolvesOn_first_object outcome_read_mixed
  obtain rfl := Except.ok.inj (entryName_mixed.symm.trans hentry)
  obtain rfl := Except.ok.inj (planText_mixed.symm.trans htext)
  exact ⟨outcome_read_mixed, first, later, hcalls, (hresolve _ _).2 (by decide)⟩

/-- **A step can be resolved on another object than the one that it was called on.** The routine of
this script calls `wR` on two objects. The second call drops characters on its own object, and the
step for it reverses. -/
theorem not_resolvesOn_own_object :
    ∃ first second, (read .standard mixedScript.toList).outcome = .ok mixedLearnt ∧
      CallsOf mixedPlanText [first, second] ∧ second.object ≠ first.object ∧
      (∃ entry, (Lookups.standard.entryName mixedScript.toList).outcome = .ok entry ∧
        (Lookups.standard.planText mixedScript.toList entry).outcome = .ok mixedPlanText) ∧
      mixedLearnt.plan.steps = [⟨"wR", 1⟩, ⟨"wR", 2⟩] ∧
      resolve mixedLearnt.helpers ⟨"wR", 2⟩ = .ok .reverse ∧
      ResolvesOn .standard mixedScript.toList second.object ⟨"wR", 2⟩ (.ok (.dropMiddle 2)) := by
  rw [mixedText.toList_eq]
  refine ⟨mixedCalls.1, mixedCalls.2, outcome_read_mixed, callsOf_mixed, by decide,
    ⟨_, entryName_mixed, planText_mixed⟩, rfl, by decide, ?_⟩
  exact (ResolvesOn.iff_of_read tableText_mixed.2 read_mixed.2).2 (by decide)

end Unscrambler

end Unscramble

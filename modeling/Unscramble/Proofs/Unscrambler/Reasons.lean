import Unscramble.Proofs.HelperTable.Outcome
import Unscramble.Proofs.Plan.Calls
import Unscramble.Proofs.Recognizers.Entry
import Unscramble.Proofs.Recognizers.Plan
import Unscramble.Proofs.Unscrambler.Objects

/-!
# A build fails for a reason in the script

Names that are found in a script are put into the templates of later recognizers, so a script has a
say in six of the patterns that are used on it. None of them can be broken in this way. Whatever the
name is, its characters are escaped, and the pattern is read as the template with the word in its
gap. All that a name can do is to be too long, so that the pattern exceeds the size that is
accepted.

So a build with the built-in recognizers has one of four outcomes that fail, each of which tells of
something in the script, or a pattern was valid and too large. A failure of a run is not among them.
And if the build succeeds, it has something to run: the plan has a step, each step names a helper,
and the table has one.

## Main definitions

* `Recognizer.IsTooLargeFor`: a recognizer is refused only for the size of its pattern.
* `Reason`: why a build may fail.
* `IsExpected`: how a build may end.

## Main statements

* `Recognizer.of_gapped_refused`: a recognizer with a gap is refused for its size only.
* `reason_of_tableStage`, `reason_of_planStage`, `reason_of_read`: a failure has a reason, stage by
  stage from the last one on.
* `isExpected_read`: every build ends as expected.
-/

namespace Unscramble

open Unscramble.Text Unscramble.Pattern

/-! ### Patterns with a name in them -/

/-- With the name in its place, the recognizer's text is a pattern, but a larger one than is
accepted. -/
def Recognizer.IsTooLargeFor (r : Recognizer) (name : List Char) : Prop :=
  ∃ written, Written.read (r.patternText (some name)) = .ok written ∧
    sizeLimit < written.expr.size

/-- **No name breaks a pattern.** A recognizer with a gap can be refused only for its size. -/
theorem Recognizer.of_gapped_refused {r : Recognizer} {t : Gapped} {name : List Char}
    {e : PatternError} (hr : r.patternText (some name) = t.text (identifierOf name))
    (h : Pattern.read (r.patternText (some name)) = .error e) :
    e = .tooLarge ∧ r.IsTooLargeFor name := by
  rw [hr, t.read_text] at h
  split_ifs at h with hsize
  refine ⟨(Except.error.inj h).symm, _, hr ▸ t.written_read_text _, ?_⟩
  rw [t.size_parts]
  exact hsize

/-- A recognizer of a plan or a table that is refused is too large. -/
theorem Recognizer.isTooLargeFor {r : Recognizer} (hr : r ∈ planRecognizers ++ tableRecognizers)
    {name : List Char} {e : PatternError}
    (h : Pattern.read (r.patternText (some name)) = .error e) :
    e = .tooLarge ∧ r.IsTooLargeFor name := by
  rcases List.mem_append.1 hr with hr | hr
  · obtain ⟨f, rfl⟩ := RoutineForm.exists_recognizer hr
    exact of_gapped_refused (f.patternText_recognizer name) h
  · obtain ⟨f, rfl⟩ := ObjectForm.exists_recognizer hr
    exact of_gapped_refused (f.patternText_recognizer name) h

/-- A lookup of a name that fails has found nothing, or has a pattern that is too large. -/
theorem Lookup.of_outcome_error {l : Lookup}
    (hl : l.recognizers ⊆ planRecognizers ++ tableRecognizers) {text name : List Char}
    {e : Failure} (h : (l.run text (some name)).outcome = .error e) :
    e = .notFound l.stage ∨
      e = .badPattern .tooLarge ∧ ∃ r ∈ l.recognizers, r.IsTooLargeFor name := by
  have hends := l.run_ends text (some name)
  rw [h] at hends
  rcases hends.missed_or_refused with ⟨rfl, -⟩ | ⟨r, hr, e', rfl, hread⟩
  · exact .inl rfl
  · obtain ⟨rfl, hlarge⟩ := Recognizer.isTooLargeFor (hl hr) hread
    exact .inr ⟨rfl, r, hr, hlarge⟩

/-! ### Steps -/

/-- The helper of a step is named by a word of the characters of helpers. -/
def Call.IsNamed (step : Call) : Prop :=
  step.helper.toList ≠ [] ∧ ∀ x ∈ step.helper.toList, partClass.has x = true

theorem Call.isNamed_of_read {s : List Char} {step : Call} (h : Call.read s = .ok step) :
    step.IsNamed := by
  obtain ⟨cs, hcs⟩ := exists_callsIn s
  obtain ⟨c, later, -, hhelper, -⟩ := hcs.is_of_read h
  rw [IsNamed, hhelper, String.toList_ofList]
  exact ⟨c.helper.ne_nil, c.helper.all_has⟩

theorem Plan.isNamed_of_read {text : List Char} {plan : Plan} (h : Plan.read text = .ok plan) :
    ∀ step ∈ plan.steps, step.IsNamed := by
  have hsteps := forall₂_of_read h
  generalize statements text = ss at hsteps
  generalize plan.steps = steps at hsteps
  induction hsteps with
  | nil => simp
  | cons hs _ ih => exact List.forall_mem_cons.2 ⟨Call.isNamed_of_read hs, ih⟩

/-- A table that is read has a helper. -/
theorem HelperTable.size_pos_of_read {text : List Char} {t : HelperTable}
    (h : (HelperTable.read text).outcome = .ok t) : 0 < t.size := by
  obtain ⟨helpers, hdefines, rfl⟩ := HelperTable.outcome_read_eq_ok_iff.1 h
  obtain ⟨e, es, rfl⟩ := List.exists_cons_of_ne_nil (hdefines.ne_nil (members_ne_nil text))
  -- the name of the first helper is in the table
  have hmem : e.1 ∈ (HelperTable.ofList (e :: es)).entries.map (·.1) :=
    isSome_get?_iff.1 ((isSome_get?_foldl_insert (e :: es) e.1).2 List.mem_cons_self)
  rw [size, ← List.length_map (f := (·.1))]
  exact List.length_pos_of_mem hmem

namespace Unscrambler

/-! ### How a build ends -/

/-- Why a build may fail. -/
inductive Reason (script : List Char) : Failure → Prop
  /-- The script holds nothing but white space. -/
  | blank (hblank : script.all isBlank = true) : Reason script .emptyScript
  /-- Nothing in the script looks like what a stage is for. -/
  | missing (stage : Stage) : Reason script (.notFound stage)
  /-- A fragment of the script does not have the expected parts. -/
  | malformed (what : Malformed) (fragment : String) : Reason script (.malformed what fragment)
  /-- The body of a helper is none of the known moves. -/
  | unknownShape (body : String) : Reason script (.unknownShape body)
  /-- The name of the entry routine makes a valid pattern for its plan too large. -/
  | planTooLarge {entry : List Char} {r : Recognizer}
      (hentry : (Lookups.standard.entryName script).outcome = .ok entry)
      (hr : r ∈ planRecognizers) (hlarge : r.IsTooLargeFor entry) :
      Reason script (.badPattern .tooLarge)
  /-- The name of an object in the plan makes a valid pattern for its table too large. -/
  | tableTooLarge {entry planText object : List Char} {r : Recognizer}
      (hentry : (Lookups.standard.entryName script).outcome = .ok entry)
      (hplanText : (Lookups.standard.planText script entry).outcome = .ok planText)
      (hobject : objectName planText = .ok object)
      (hr : r ∈ tableRecognizers) (hlarge : r.IsTooLargeFor object) :
      Reason script (.badPattern .tooLarge)

/-- How a build may end: with something to run, or with a failure that has a reason. -/
def IsExpected (script : List Char) : Except Failure Unscrambler → Prop
  | .ok u => u.plan.steps ≠ [] ∧ 0 < u.helpers.size ∧ ∀ step ∈ u.plan.steps, step.IsNamed
  | .error e => Reason script e

variable {script entry planText object : List Char} {plan : Plan} {e : Failure}

/-- The table of an object fails for a reason. -/
theorem reason_of_tableStage (hentry : (Lookups.standard.entryName script).outcome = .ok entry)
    (hplanText : (Lookups.standard.planText script entry).outcome = .ok planText)
    (hobject : objectName planText = .ok object)
    (h : (tableStage .standard script entry plan object).outcome = .error e) :
    Reason script e := by
  rcases hrow : (Lookups.standard.tableText script object).outcome with f | row
  · obtain rfl := Except.error.inj ((outcome_tableStage_of_error hrow).symm.trans h)
    rcases Lookup.of_outcome_error (List.subset_append_right _ _) hrow with
      rfl | ⟨rfl, r, hr, hlarge⟩
    · exact .missing _
    · exact .tableTooLarge hentry hplanText hobject hr hlarge
  rw [(tableStage_of_ok hrow).2] at h
  rcases hread : (HelperTable.read row).outcome with f | helpers
  · rw [hread] at h
    obtain rfl := Except.error.inj h
    have hreads := HelperTable.read_readsMembers row
    rw [hread] at hreads
    rcases hreads.error with ⟨body, -, -, rfl, -⟩ | ⟨⟨fragment, rfl⟩, -⟩
    · exact .unknownShape body
    · exact .malformed _ fragment
  · rw [hread] at h
    cases h

/-- The plan of an entry routine fails for a reason, and so does what comes behind it. -/
theorem reason_of_planStage (hentry : (Lookups.standard.entryName script).outcome = .ok entry)
    (h : (planStage .standard script entry).outcome = .error e) : Reason script e := by
  rcases htext : (Lookups.standard.planText script entry).outcome with f | planText
  · obtain rfl := Except.error.inj ((outcome_planStage_of_error htext).symm.trans h)
    rcases Lookup.of_outcome_error (List.subset_append_left _ _) htext with
      rfl | ⟨rfl, r, hr, hlarge⟩
    · exact .missing _
    · exact .planTooLarge hentry hr hlarge
  rcases hplan : Plan.read planText with f | plan
  · rw [planStage, Attempt.outcome_bind_ok htext, hplan] at h
    obtain rfl := Except.error.inj h
    rcases Plan.read_eq_error hplan with ⟨rfl, -⟩ | ⟨what, fragment, rfl⟩
    · exact .missing _
    · exact .malformed what fragment
  -- a plan that is read names the object of its table
  obtain ⟨object, hobject⟩ := exists_objectName hplan
  rw [outcome_planStage_of_ok htext hplan hobject] at h
  exact reason_of_tableStage hentry htext hobject h

/-- **A build that fails** does so for a reason. -/
theorem reason_of_read (h : (read .standard script).outcome = .error e) : Reason script e := by
  by_cases hblank : script.all isBlank = true
  · obtain rfl := Except.error.inj ((read_of_all_isBlank hblank).2.symm.trans h)
    exact .blank hblank
  rcases Lookups.entryName_cases script with hentry | ⟨entry, hentry, -⟩
  · rw [read_eq hblank, Attempt.outcome_bind_error hentry] at h
    obtain rfl := Except.error.inj h
    exact .missing _
  · rw [outcome_read_of_entryName hblank hentry] at h
    exact reason_of_planStage hentry h

/-- **A build can only fail for a reason in the script**, whatever names it finds there and puts
into the patterns of later recognizers. The entry routine has a name, if there is one, and a build
that succeeds has steps, each of which names a helper, and helpers. -/
theorem isExpected_read (script : List Char) :
    ((Lookups.standard.entryName script).outcome = .error (.notFound .entryName) ∨
      ∃ name, (Lookups.standard.entryName script).outcome = .ok name ∧ IsName name) ∧
    IsExpected script (read .standard script).outcome := by
  refine ⟨Lookups.entryName_cases script, ?_⟩
  rcases h : (read .standard script).outcome with e | u
  · exact reason_of_read h
  · obtain ⟨-, entry, planText, first, later, row, hfinds⟩ := exists_finds h
    have hplan : Plan.read planText = .ok u.plan :=
      Plan.read_eq_ok_iff.2 ⟨first :: later, hfinds.callsOf, hfinds.isStep⟩
    exact ⟨u.plan.steps_ne_nil, HelperTable.size_pos_of_read hfinds.read_eq,
      Plan.isNamed_of_read hplan⟩

end Unscrambler

end Unscramble

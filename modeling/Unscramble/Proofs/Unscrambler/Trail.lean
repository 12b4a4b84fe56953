import Unscramble.Proofs.HelperTable
import Unscramble.Proofs.Lookup
import Unscramble.Proofs.Plan
import Unscramble.Unscrambler

/-!
# The trail of a build tells how it ended

Learning a script goes through three lookups, the reading of a plan and the reading of a table, and
each of the five can end it. `Builds` lists the ways in which this goes, with the four parts that
the trail is made of: one block for each lookup, and the decisions on helpers. A part is empty if it
is not reached.

The outcome can be told from these parts, up to the wording of a fragment. A lookup that found
nothing has tried all of its recognizers, which is different from a block that ends with a match and
from one that a broken recognizer cuts short. A missing plan is the only failure with two sources,
and the captured text tells them apart. Blocks that end with a match fix what they captured, so
nothing but the script and the recognizers is needed to read a trail.

## Main definitions

* `Builds`: the ways in which a build goes.
* `PlanFound`, `TableFound`: the text that a stage captured.
* `Explains`: what the parts of a trail say about the outcome.

## Main statements

* `read_builds`: a build goes in one of the listed ways.
* `read_explained`: the trail of a build explains its outcome.
-/

namespace Unscramble

open Unscramble.Text

/-! ### Lookups that end well or badly -/

section Lookup

variable {l : Lookup} {text : List Char} {name : Option (List Char)} {b : Trail}

/-- A lookup that fails has tried all of its recognizers, or one of them is no pattern. -/
theorem Lookup.Ends.missed_or_refused {f : Failure} (h : l.Ends text name b (.error f)) :
    (f = .notFound l.stage ∧ b = vain l.stage l.recognizers) ∨
      ∃ r ∈ l.recognizers, ∃ e, f = .badPattern e ∧
        Pattern.read (r.patternText name) = .error e := by
  cases h with
  | missed all => exact .inl ⟨rfl, rfl⟩
  | broken split before refused =>
    exact .inr ⟨_, split ▸ List.mem_append_right _ List.mem_cons_self, _, rfl,
      read_of_recognize_eq_error refused⟩

/-- A lookup that tried all of its recognizers in vain found nothing. -/
theorem Lookup.Ends.eq_notFound {f : Failure} (h : l.Ends text name b (.error f))
    (tried : b = vain l.stage l.recognizers) : f = .notFound l.stage := by
  cases h with
  | missed all => rfl
  | broken split before refused =>
    rw [split] at tried
    exact absurd tried (vain_ne_vain_append_cons _ _ _ _)

theorem Lookup.Ends.isBlock_of_error {f : Failure} (h : l.Ends text name b (.error f)) :
    IsBlock l.stage l.recognizers b := by
  cases h with
  | missed all => exact isBlock_vain (List.prefix_refl _)
  | broken split before refused => exact isBlock_vain ⟨_, split.symm⟩

theorem Lookup.Ends.not_endsMatched {f : Failure} (h : l.Ends text name b (.error f)) :
    ¬ EndsMatched b := by
  cases h with
  | missed all => exact not_endsMatched_vain _ _
  | broken split before refused => exact not_endsMatched_vain _ _

end Lookup

theorem IsBlock.tried {stage : Stage} {rs : List Recognizer} {b : Trail} (h : IsBlock stage rs b)
    {d : Decision} (hd : d ∈ b) : ∃ index name matched, d = .tried stage index name matched := by
  rcases h with ⟨tried, -, rfl⟩ | ⟨earlier, r, -, rfl⟩
  · obtain ⟨index, name, hd⟩ := mem_vain hd
    exact ⟨index, name, false, hd⟩
  · rcases List.mem_append.1 hd with hd | hd
    · obtain ⟨index, name, hd⟩ := mem_vain hd
      exact ⟨index, name, false, hd⟩
    · exact ⟨_, _, _, List.mem_singleton.1 hd⟩

namespace Unscrambler

/-! ### What a stage captured -/

/-- The plan stage is reached and captures `t`. -/
def PlanFound (l : Lookups) (script : List Char) (entry plan : Trail) (t : List Char) : Prop :=
  ∃ e, Captures .entryName l.entry script none entry e ∧
    Captures .planText l.plan script (some e) plan t

/-- The table stage is reached with a plan and the object `o`. -/
def TableReached (l : Lookups) (script : List Char) (entry plan : Trail) (o : List Char) : Prop :=
  ∃ t p, PlanFound l script entry plan t ∧ Plan.read t = .ok p ∧ objectName t = .ok o

/-- The table stage is reached and captures `v`. -/
def TableFound (l : Lookups) (script : List Char) (entry plan table : Trail) (v : List Char) :
    Prop :=
  ∃ o, TableReached l script entry plan o ∧
    Captures .tableText l.table (Lookups.flatten script) (some o) table v

variable {l : Lookups} {script : List Char}

theorem PlanFound.unique {entry plan : Trail} {t t' : List Char}
    (h : PlanFound l script entry plan t) (h' : PlanFound l script entry plan t') : t = t' := by
  obtain ⟨e, he, ht⟩ := h
  obtain ⟨e', he', ht'⟩ := h'
  obtain rfl := he.unique he'
  exact ht.unique ht'

theorem PlanFound.entry_endsMatched {entry plan : Trail} {t : List Char}
    (h : PlanFound l script entry plan t) : EndsMatched entry := by
  obtain ⟨e, he, -⟩ := h
  exact he.endsMatched

theorem PlanFound.plan_endsMatched {entry plan : Trail} {t : List Char}
    (h : PlanFound l script entry plan t) : EndsMatched plan := by
  obtain ⟨e, -, ht⟩ := h
  exact ht.endsMatched

/-- The table stage is reached only behind a plan text that is a plan. -/
theorem TableReached.exists_read {entry plan : Trail} {o t : List Char}
    (h : TableReached l script entry plan o) (ht : PlanFound l script entry plan t) :
    (∃ p, Plan.read t = .ok p) ∧ objectName t = .ok o := by
  obtain ⟨t', p, ht', hp, ho⟩ := h
  obtain rfl := ht.unique ht'
  exact ⟨⟨p, hp⟩, ho⟩

theorem TableReached.plan_endsMatched {entry plan : Trail} {o : List Char}
    (h : TableReached l script entry plan o) : EndsMatched plan := by
  obtain ⟨t, -, ht, -, -⟩ := h
  exact ht.plan_endsMatched

theorem TableFound.unique {entry plan table : Trail} {v v' : List Char}
    (h : TableFound l script entry plan table v) (h' : TableFound l script entry plan table v') :
    v = v' := by
  obtain ⟨o, ⟨t, p, ht, hp, ho⟩, hv⟩ := h
  obtain ⟨o', ho', hv'⟩ := h'
  obtain rfl : o = o' := Except.ok.inj (ho.symm.trans (ho'.exists_read ht).2)
  exact hv.unique hv'

theorem TableFound.table_endsMatched {entry plan table : Trail} {v : List Char}
    (h : TableFound l script entry plan table v) : EndsMatched table := by
  obtain ⟨o, -, hv⟩ := h
  exact hv.endsMatched

theorem TableFound.plan_endsMatched {entry plan table : Trail} {v : List Char}
    (h : TableFound l script entry plan table v) : EndsMatched plan := by
  obtain ⟨o, ho, -⟩ := h
  exact ho.plan_endsMatched

/-! ### The ways of a build -/

/-- The ways in which a build of a script that is not blank goes, with the blocks of the three
lookups, the decisions on helpers, and the outcome. -/
inductive Builds (l : Lookups) (script : List Char) :
    (entry plan table classified : Trail) → Except Failure Unscrambler → Prop
  /-- No entry routine is found. -/
  | noEntry {entry : Trail} {f : Failure}
      (stop : (l.get .entryName).Ends script none entry (.error f)) :
      Builds l script entry [] [] [] (.error f)
  /-- No plan text is found. -/
  | noPlan {entry plan : Trail} {e : List Char} {f : Failure}
      (start : Captures .entryName l.entry script none entry e)
      (stop : (l.get .planText).Ends script (some e) plan (.error f)) :
      Builds l script entry plan [] [] (.error f)
  /-- The plan text is no plan. -/
  | unread {entry plan : Trail} {t : List Char} {f : Failure}
      (text : PlanFound l script entry plan t) (stop : Plan.read t = .error f) :
      Builds l script entry plan [] [] (.error f)
  /-- No table text is found. -/
  | noTable {entry plan table : Trail} {o : List Char} {f : Failure}
      (reached : TableReached l script entry plan o)
      (stop : (l.get .tableText).Ends (Lookups.flatten script) (some o) table (.error f)) :
      Builds l script entry plan table [] (.error f)
  /-- The table text is read, with or without success. -/
  | full {entry plan table classified : Trail} {v : List Char} {p : Plan}
      {helpers : Except Failure HelperTable}
      (braced : TableFound l script entry plan table v)
      (reading : ReadsMembers HelperTable.empty (members v) classified helpers) :
      Builds l script entry plan table classified (helpers.map fun h ↦ ⟨p, h⟩)

theorem read_of_all_isBlank (h : script.all isBlank = true) :
    (read l script).trail = [] ∧ (read l script).outcome = .error .emptyScript := by
  rw [read, if_pos (by rw [trim_of_all_isBlank h]; rfl)]
  exact ⟨rfl, rfl⟩

/-- The part of a build that follows when the plan is known: the table of the object `o`. -/
def tableStage (l : Lookups) (script e : List Char) (p : Plan) (o : List Char) :
    Attempt Failure Unscrambler := do
  let tableText ← l.tableText script o
  let helpers ← HelperTable.read tableText
  .note (.planBuilt (String.ofList e) (String.ofList o) p.steps.length helpers.size)
  return ⟨p, helpers⟩

/-- The part of a build that follows when the entry routine `e` is known. -/
def planStage (l : Lookups) (script e : List Char) : Attempt Failure Unscrambler := do
  let planText ← l.planText script e
  let plan ← .ofExcept (Plan.read planText)
  let object ← .ofExcept (objectName planText)
  tableStage l script e plan object

theorem read_eq (h : ¬ script.all isBlank = true) :
    read l script = (do
      let entry ← l.entryName script
      .note (.entryFound (String.ofList entry))
      planStage l script entry) := by
  rw [read, if_neg]
  · rfl
  · rwa [List.isEmpty_iff, trim_eq_nil_iff]

/-- A build goes on behind its entry routine. -/
theorem outcome_read_of_entryName {e : List Char} (h : ¬ script.all isBlank = true)
    (hentry : (l.entryName script).outcome = .ok e) :
    (read l script).outcome = (planStage l script e).outcome := by
  rw [read_eq h, Attempt.outcome_bind_ok hentry, Attempt.outcome_bind_ok rfl]

theorem outcome_planStage_of_error {e : List Char} {f : Failure}
    (h : (l.planText script e).outcome = .error f) :
    (planStage l script e).outcome = .error f :=
  Attempt.outcome_bind_error h _

/-- A build goes on behind its plan. -/
theorem outcome_planStage_of_ok {e t o : List Char} {p : Plan}
    (h : (l.planText script e).outcome = .ok t) (hp : Plan.read t = .ok p)
    (ho : objectName t = .ok o) :
    (planStage l script e).outcome = (tableStage l script e p o).outcome := by
  rw [planStage, Attempt.outcome_bind_ok h, hp, Attempt.outcome_bind_ok rfl, ho,
    Attempt.outcome_bind_ok rfl]

theorem outcome_tableStage_of_error {e o : List Char} {p : Plan} {f : Failure}
    (h : (l.tableText script o).outcome = .error f) :
    (tableStage l script e p o).outcome = .error f :=
  Attempt.outcome_bind_error h _

/-- A table that is read leaves the decisions of its members, and a plan that is built leaves
none. -/
theorem tableStage_of_ok {e o v : List Char} {p : Plan}
    (h : (l.tableText script o).outcome = .ok v) :
    (tableStage l script e p o).trail =
        (l.tableText script o).trail ++ (HelperTable.read v).trail ∧
      (tableStage l script e p o).outcome =
        (HelperTable.read v).outcome.map fun helpers ↦ ⟨p, helpers⟩ := by
  rw [tableStage, Attempt.trail_bind_ok h, Attempt.outcome_bind_ok h]
  cases hv : (HelperTable.read v).outcome with
  | error f =>
    rw [Attempt.trail_bind_error hv, Attempt.outcome_bind_error hv]
    exact ⟨rfl, rfl⟩
  | ok helpers =>
    rw [Attempt.trail_bind_ok hv, Attempt.outcome_bind_ok hv]
    exact ⟨congrArg ((l.tableText script o).trail ++ ·) (List.append_nil _), rfl⟩

theorem tableStage_builds {entry plan : Trail} {e t o : List Char} {p : Plan}
    (start : Captures .entryName l.entry script none entry e)
    (text : Captures .planText l.plan script (some e) plan t)
    (steps : Plan.read t = .ok p) (object : objectName t = .ok o) :
    ∃ table classified, (tableStage l script e p o).trail = table ++ classified ∧
      Builds l script entry plan table classified (tableStage l script e p o).outcome := by
  have hends := (l.get .tableText).run_ends (Lookups.flatten script) (some o)
  cases hv : (l.tableText script o).outcome with
  | error f =>
    rw [tableStage, Attempt.trail_bind_error hv, Attempt.outcome_bind_error hv]
    refine ⟨_, [], (List.append_nil _).symm, .noTable ⟨t, p, ⟨e, start, text⟩, steps, object⟩ ?_⟩
    rw [← hv]
    exact hends
  | ok v =>
    obtain ⟨htrail, hout⟩ := tableStage_of_ok (e := e) (p := p) hv
    rw [htrail, hout]
    have braced : Captures .tableText l.table (Lookups.flatten script) (some o)
        (l.tableText script o).trail v :=
      Lookup.Ends.captures (l := l.get .tableText) (hv ▸ hends)
    exact ⟨_, _, rfl, .full ⟨o, ⟨t, p, ⟨e, start, text⟩, steps, object⟩, braced⟩
      (HelperTable.read_readsMembers v)⟩

theorem planStage_builds {entry : Trail} {e : List Char}
    (start : Captures .entryName l.entry script none entry e) :
    ∃ plan table classified, (planStage l script e).trail = plan ++ table ++ classified ∧
      Builds l script entry plan table classified (planStage l script e).outcome := by
  have hends := (l.get .planText).run_ends script (some e)
  rw [planStage]
  cases ht : (l.planText script e).outcome with
  | error f =>
    rw [Attempt.trail_bind_error ht, Attempt.outcome_bind_error ht]
    refine ⟨_, [], [], by rw [List.append_nil, List.append_nil], .noPlan start ?_⟩
    rw [← ht]
    exact hends
  | ok t =>
    have text : Captures .planText l.plan script (some e) (l.planText script e).trail t :=
      Lookup.Ends.captures (l := l.get .planText) (ht ▸ hends)
    rw [Attempt.trail_bind_ok ht, Attempt.outcome_bind_ok ht]
    cases hp : Plan.read t with
    | error f => exact ⟨_, [], [], by rw [List.append_nil]; rfl, .unread ⟨e, start, text⟩ hp⟩
    | ok p =>
      -- behind a plan the object is known too, so nothing can end the build in between
      obtain ⟨o, ho⟩ := exists_objectName hp
      obtain ⟨table, classified, htrail, hbuilds⟩ := tableStage_builds start text hp ho
      rw [Attempt.trail_bind_ok rfl, Attempt.outcome_bind_ok rfl, ho, Attempt.trail_bind_ok rfl,
        Attempt.outcome_bind_ok rfl, htrail]
      exact ⟨_, table, classified, by rw [List.append_assoc]; rfl, hbuilds⟩

/-- **A build goes in one of the listed ways.** -/
theorem read_builds (h : ¬ script.all isBlank = true) :
    ∃ entry plan table classified,
      (read l script).trail = entry ++ plan ++ table ++ classified ∧
        Builds l script entry plan table classified (read l script).outcome := by
  have hends := (l.get .entryName).run_ends script none
  rw [read_eq h]
  cases he : (l.entryName script).outcome with
  | error f =>
    rw [Attempt.trail_bind_error he, Attempt.outcome_bind_error he]
    refine ⟨_, [], [], [], by simp only [List.append_nil]; rfl, .noEntry ?_⟩
    rw [← he]
    exact hends
  | ok e =>
    have start : Captures .entryName l.entry script none (l.entryName script).trail e :=
      Lookup.Ends.captures (l := l.get .entryName) (he ▸ hends)
    obtain ⟨plan, table, classified, htrail, hbuilds⟩ := planStage_builds start
    rw [Attempt.trail_bind_ok he, Attempt.outcome_bind_ok he, Attempt.trail_bind_ok rfl,
      Attempt.outcome_bind_ok rfl, htrail]
    exact ⟨_, plan, table, classified, by simp only [List.append_assoc]; rfl, hbuilds⟩

/-! ### The trail tells the way -/

section Parts

variable {entry plan table classified : Trail} {outcome : Except Failure Unscrambler}

theorem TableReached.entry_endsMatched {o : List Char} (h : TableReached l script entry plan o) :
    EndsMatched entry := by
  obtain ⟨t, -, ht, -, -⟩ := h
  exact ht.entry_endsMatched

/-- A build whose entry block does not end with a match stops there. -/
theorem Builds.of_not_entry (h : Builds l script entry plan table classified outcome)
    (he : ¬ EndsMatched entry) :
    ∃ f, outcome = .error f ∧ (l.get .entryName).Ends script none entry (.error f) := by
  cases h with
  | noEntry stop => exact ⟨_, rfl, stop⟩
  | noPlan start stop => exact absurd start.endsMatched he
  | unread text stop => exact absurd text.entry_endsMatched he
  | noTable reached stop => exact absurd reached.entry_endsMatched he
  | full braced reading =>
    obtain ⟨o, reached, -⟩ := braced
    exact absurd reached.entry_endsMatched he

/-- A build whose plan block does not end with a match stops there. -/
theorem Builds.of_not_plan (h : Builds l script entry plan table classified outcome)
    (he : EndsMatched entry) (hp : ¬ EndsMatched plan) :
    ∃ e f, outcome = .error f ∧ (l.get .planText).Ends script (some e) plan (.error f) := by
  cases h with
  | noEntry stop => exact absurd he stop.not_endsMatched
  | noPlan start stop => exact ⟨_, _, rfl, stop⟩
  | unread text stop => exact absurd text.plan_endsMatched hp
  | noTable reached stop => exact absurd reached.plan_endsMatched hp
  | full braced reading => exact absurd braced.plan_endsMatched hp

/-- A build that captures a plan text fails as reading it fails. -/
theorem Builds.of_read_eq_error (h : Builds l script entry plan table classified outcome)
    {t : List Char} {f : Failure} (ht : PlanFound l script entry plan t)
    (hf : Plan.read t = .error f) : outcome = .error f := by
  cases h with
  | noEntry stop => exact absurd ht.entry_endsMatched stop.not_endsMatched
  | noPlan start stop => exact absurd ht.plan_endsMatched stop.not_endsMatched
  | unread text stop =>
    -- the same blocks capture the same text
    obtain rfl := text.unique ht
    rw [Except.error.inj (stop.symm.trans hf)]
  | noTable reached stop =>
    obtain ⟨⟨p, hp⟩, -⟩ := reached.exists_read ht
    cases hp.symm.trans hf
  | full braced reading =>
    obtain ⟨o, reached, -⟩ := braced
    obtain ⟨⟨p, hp⟩, -⟩ := reached.exists_read ht
    cases hp.symm.trans hf

/-- A build that reaches the table stage and whose table block does not end with a match stops
there. -/
theorem Builds.of_not_table (h : Builds l script entry plan table classified outcome)
    {o : List Char} (ho : TableReached l script entry plan o) (ht : ¬ EndsMatched table) :
    ∃ o' f, outcome = .error f ∧
      (l.get .tableText).Ends (Lookups.flatten script) (some o') table (.error f) := by
  cases h with
  | noEntry stop => exact absurd ho.entry_endsMatched stop.not_endsMatched
  | noPlan start stop => exact absurd ho.plan_endsMatched stop.not_endsMatched
  | unread text stop =>
    obtain ⟨⟨p, hp⟩, -⟩ := ho.exists_read text
    cases hp.symm.trans stop
  | noTable reached stop => exact ⟨_, _, rfl, stop⟩
  | full braced reading => exact absurd braced.table_endsMatched ht

/-- A build that captures a table text ends as reading its members ends. -/
theorem Builds.of_tableFound (h : Builds l script entry plan table classified outcome)
    {v : List Char} (hv : TableFound l script entry plan table v) :
    ∃ p helpers, outcome = helpers.map (fun h ↦ ⟨p, h⟩) ∧
      ReadsMembers HelperTable.empty (members v) classified helpers := by
  cases h with
  | noEntry stop =>
    obtain ⟨o, ho, -⟩ := hv
    exact absurd ho.entry_endsMatched stop.not_endsMatched
  | noPlan start stop => exact absurd hv.plan_endsMatched stop.not_endsMatched
  | unread text stop => exact absurd hv.table_endsMatched not_endsMatched_nil
  | noTable reached stop => exact absurd hv.table_endsMatched stop.not_endsMatched
  | full braced reading =>
    obtain rfl := braced.unique hv
    exact ⟨_, _, rfl, reading⟩

/-! ### Where a failure comes from -/

/-- The failures that can follow the parts of a trail, and what the parts are then. -/
inductive Blames (l : Lookups) (script : List Char) (entry plan table classified : Trail) :
    Failure → Prop
  /-- All recognizers of the entry routine were tried in vain. -/
  | noEntry (tried : entry = vain .entryName l.entry) :
      Blames l script entry plan table classified (.notFound .entryName)
  /-- All recognizers of the plan text were tried in vain. -/
  | noPlan (start : EndsMatched entry) (tried : plan = vain .planText l.plan) :
      Blames l script entry plan table classified (.notFound .planText)
  /-- The plan text has no statement. -/
  | noStatement {t : List Char} (text : PlanFound l script entry plan t)
      (blank : statements t = []) :
      Blames l script entry plan table classified (.notFound .planText)
  /-- A statement of the plan text is no call. -/
  | noCall {t : List Char} {what : Malformed} {fragment : String}
      (text : PlanFound l script entry plan t) (table_nil : table = [])
      (classified_nil : classified = []) :
      Blames l script entry plan table classified (.malformed what fragment)
  /-- All recognizers of the table text were tried in vain. -/
  | noTable {o : List Char} (reached : TableReached l script entry plan o)
      (tried : table = vain .tableText l.table) :
      Blames l script entry plan table classified (.notFound .tableText)
  /-- The last helper has no known shape. -/
  | noShape {before : Trail} {helper body : String}
      (last : classified = before ++ [.classified helper none]) :
      Blames l script entry plan table classified (.unknownShape body)
  /-- A member has no name, and those before it are known. -/
  | noName {v : List Char} {fragment : String} (braced : TableFound l script entry plan table v)
      (fewer : classified.length < (members v).length) (known : ∀ d ∈ classified, d.IsKnown) :
      Blames l script entry plan table classified (.malformed .tooFewFields fragment)
  /-- A template is no pattern. -/
  | noPattern {r : Recognizer} {name : Option (List Char)} {reason : Pattern.PatternError}
      (mem : r ∈ l.entry ++ l.plan ++ l.table)
      (refused : Pattern.read (r.patternText name) = .error reason) :
      Blames l script entry plan table classified (.badPattern reason)

theorem Blames.ne_emptyScript {f : Failure}
    (h : Blames l script entry plan table classified f) : f ≠ .emptyScript := by
  rintro rfl
  cases h

theorem Blames.isOfRun {f : Failure}
    (h : Blames l script entry plan table classified f) : f.isOfRun = false := by
  cases h <;> rfl

/-- A reading of members that fails has a decision on fewer helpers than there are members, or the
last decision names no family. -/
theorem blames_of_readsMembers {v : List Char} {f : Failure}
    (braced : TableFound l script entry plan table v)
    (reading : ReadsMembers HelperTable.empty (members v) classified (.error f)) :
    Blames l script entry plan table classified f := by
  rcases reading.error with ⟨body, before, helper, rfl, hlast⟩ | ⟨⟨fragment, rfl⟩, hknown⟩
  · exact .noShape hlast
  · -- with a decision for every member there would be a table
    have hne : classified.length ≠ (members v).length := by
      intro hlen
      obtain ⟨t, ht⟩ := reading.ok_iff.2 ⟨hlen, hknown⟩
      cases ht
    exact .noName braced (Nat.lt_of_le_of_ne reading.classified.2 hne) hknown

/-- **Every failure of a build has its source in the trail.** -/
theorem Builds.blames (h : Builds l script entry plan table classified outcome) {f : Failure}
    (hf : outcome = .error f) : Blames l script entry plan table classified f := by
  cases h with
  | noEntry stop =>
    obtain rfl := Except.error.inj hf
    rcases stop.missed_or_refused with ⟨rfl, htried⟩ | ⟨r, hr, e, rfl, hread⟩
    · exact .noEntry htried
    · exact .noPattern (List.mem_append_left _ (List.mem_append_left _ hr)) hread
  | noPlan start stop =>
    obtain rfl := Except.error.inj hf
    rcases stop.missed_or_refused with ⟨rfl, htried⟩ | ⟨r, hr, e, rfl, hread⟩
    · exact .noPlan start.endsMatched htried
    · exact .noPattern (List.mem_append_left _ (List.mem_append_right _ hr)) hread
  | unread text stop =>
    obtain rfl := Except.error.inj hf
    rcases Plan.read_eq_error stop with ⟨rfl, hblank⟩ | ⟨what, fragment, rfl⟩
    · exact .noStatement text hblank
    · exact .noCall text rfl rfl
  | noTable reached stop =>
    obtain rfl := Except.error.inj hf
    rcases stop.missed_or_refused with ⟨rfl, htried⟩ | ⟨r, hr, e, rfl, hread⟩
    · exact .noTable reached htried
    · exact .noPattern (List.mem_append_right _ hr) hread
  | full braced reading =>
    rename_i p helpers
    cases helpers with
    | ok helpers => cases hf
    | error f' =>
      obtain rfl : f' = f := Except.error.inj hf
      exact blames_of_readsMembers braced reading

/-! ### Reading a trail -/

/-- The parts of a trail explain an outcome. Each part is what it should be, is there only if the
part before it ended well, and together they tell which outcome it was. -/
structure Explains (l : Lookups) (script : List Char) (entry plan table classified : Trail)
    (outcome : Except Failure Unscrambler) : Prop where
  entry_block : IsBlock .entryName l.entry entry
  plan_block : IsBlock .planText l.plan plan
  table_block : IsBlock .tableText l.table table
  classified_only : ∀ d ∈ classified, d.IsClassified
  plan_starts : plan ≠ [] → EndsMatched entry
  table_starts : table ≠ [] → EndsMatched plan
  classified_starts : classified ≠ [] → EndsMatched table
  /-- All recognizers of the entry routine were tried in vain. -/
  entry_missing : outcome = .error (.notFound .entryName) ↔ entry = vain .entryName l.entry
  /-- All recognizers of the plan text were tried in vain, or the text has no statement. -/
  plan_missing : outcome = .error (.notFound .planText) ↔
    (EndsMatched entry ∧ plan = vain .planText l.plan) ∨
      ∃ t, PlanFound l script entry plan t ∧
        ∀ s ∈ pieces (· == ';') t, s.all isBlank = true
  /-- All recognizers of the table text were tried in vain. -/
  table_missing : outcome = .error (.notFound .tableText) ↔
    (∃ o, TableReached l script entry plan o) ∧ table = vain .tableText l.table
  /-- The trail ends with a helper of no known shape. -/
  shape_unknown : (∃ body, outcome = .error (.unknownShape body)) ↔
    ∃ before helper, entry ++ plan ++ table ++ classified = before ++ [.classified helper none]
  /-- A number can be wrong only in a plan text, which the trail ends with. -/
  no_integer : (∃ fragment, outcome = .error (.malformed .notAnInteger fragment)) →
    ∃ before index name,
      entry ++ plan ++ table ++ classified = before ++ [.tried .planText index name true]
  /-- A part can be missing in a plan text, which the trail ends with, or in a member of a table. -/
  few_fields : (∃ fragment, outcome = .error (.malformed .tooFewFields fragment)) →
    (EndsMatched plan ∧ table = [] ∧ classified = []) ∨
      ∃ v, TableFound l script entry plan table v ∧ classified.length < (members v).length ∧
        ∀ d ∈ classified, d.IsKnown
  /-- A template can be blamed only if it is no pattern. -/
  bad_pattern : ∀ reason, outcome = .error (.badPattern reason) →
    ∃ r ∈ l.entry ++ l.plan ++ l.table, ∃ name, Pattern.read (r.patternText name) = .error reason
  /-- There is an unscrambler if a table text was found and every member of it is known. -/
  ok : (∃ u, outcome = .ok u) ↔ ∃ v, TableFound l script entry plan table v ∧
    classified.length = (members v).length ∧ ∀ d ∈ classified, d.IsKnown
  /-- A script that is not blank is never called empty, and building runs no plan. -/
  no_other : ∀ f, outcome = .error f → f ≠ .emptyScript ∧ f.isOfRun = false

theorem Builds.blocks (h : Builds l script entry plan table classified outcome) :
    IsBlock .entryName l.entry entry ∧ IsBlock .planText l.plan plan ∧
      IsBlock .tableText l.table table ∧ ∀ d ∈ classified, d.IsClassified := by
  cases h with
  | noEntry stop => exact ⟨stop.isBlock_of_error, isBlock_nil _ _, isBlock_nil _ _, nofun⟩
  | noPlan start stop => exact ⟨start.isBlock, stop.isBlock_of_error, isBlock_nil _ _, nofun⟩
  | unread text stop =>
    obtain ⟨e, he, ht⟩ := text
    exact ⟨he.isBlock, ht.isBlock, isBlock_nil _ _, nofun⟩
  | noTable reached stop =>
    obtain ⟨t, p, ⟨e, he, ht⟩, -⟩ := reached
    exact ⟨he.isBlock, ht.isBlock, stop.isBlock_of_error, nofun⟩
  | full braced reading =>
    obtain ⟨o, ⟨t, p, ⟨e, he, ht⟩, -⟩, hv⟩ := braced
    exact ⟨he.isBlock, ht.isBlock, hv.isBlock, reading.classified.1⟩

/-- A part of the trail is there only if the part before it ended with a match. -/
theorem Builds.starts (h : Builds l script entry plan table classified outcome) :
    (plan ≠ [] → EndsMatched entry) ∧ (table ≠ [] → EndsMatched plan) ∧
      (classified ≠ [] → EndsMatched table) := by
  cases h with
  | noEntry stop => exact ⟨absurd rfl, absurd rfl, absurd rfl⟩
  | noPlan start stop => exact ⟨fun _ ↦ start.endsMatched, absurd rfl, absurd rfl⟩
  | unread text stop => exact ⟨fun _ ↦ text.entry_endsMatched, absurd rfl, absurd rfl⟩
  | noTable reached stop =>
    exact ⟨fun _ ↦ reached.entry_endsMatched, fun _ ↦ reached.plan_endsMatched, absurd rfl⟩
  | full braced reading =>
    have hplan := braced.plan_endsMatched
    have htable := braced.table_endsMatched
    obtain ⟨o, reached, -⟩ := braced
    exact ⟨fun _ ↦ reached.entry_endsMatched, fun _ ↦ hplan, fun _ ↦ htable⟩

/-- There is an unscrambler only if a table text was found and its members were read. -/
theorem Builds.exists_of_ok (h : Builds l script entry plan table classified outcome)
    {u : Unscrambler} (hu : outcome = .ok u) :
    ∃ v helpers, TableFound l script entry plan table v ∧
      ReadsMembers HelperTable.empty (members v) classified (.ok helpers) := by
  cases h with
  | noEntry stop => cases hu
  | noPlan start stop => cases hu
  | unread text stop => cases hu
  | noTable reached stop => cases hu
  | full braced reading =>
    rename_i p helpers
    cases helpers with
    | ok helpers => exact ⟨_, helpers, braced, reading⟩
    | error f => cases hu

/-- There are decisions on helpers only if a table text was found. -/
theorem Builds.exists_tableFound (h : Builds l script entry plan table classified outcome)
    (hne : classified ≠ []) : ∃ v, TableFound l script entry plan table v := by
  cases h with
  | noEntry stop => exact absurd rfl hne
  | noPlan start stop => exact absurd rfl hne
  | unread text stop => exact absurd rfl hne
  | noTable reached stop => exact absurd rfl hne
  | full braced reading => exact ⟨_, braced⟩

/-- A trail that ends with a helper of no known shape belongs to a build that failed for it. -/
theorem Builds.unknownShape (h : Builds l script entry plan table classified outcome)
    {before : Trail} {helper : String}
    (last : entry ++ plan ++ table ++ classified = before ++ [.classified helper none]) :
    ∃ body, outcome = .error (.unknownShape body) := by
  obtain ⟨hentry, hplan, htable, -⟩ := h.blocks
  have hmem : Decision.classified helper none ∈ entry ++ plan ++ table ++ classified := by
    rw [last]
    exact List.mem_append_right _ (List.mem_singleton_self _)
  -- the blocks of the lookups hold no decision on a helper
  have hclassified : Decision.classified helper none ∈ classified := by
    rcases List.mem_append.1 hmem with hmem | hmem
    · have htried : ∃ stage index name matched,
          Decision.classified helper none = .tried stage index name matched := by
        rcases List.mem_append.1 hmem with hmem | hmem
        · rcases List.mem_append.1 hmem with hmem | hmem
          · exact ⟨_, hentry.tried hmem⟩
          · exact ⟨_, hplan.tried hmem⟩
        · exact ⟨_, htable.tried hmem⟩
      obtain ⟨stage, index, name, matched, ht⟩ := htried
      cases ht
    · exact hmem
  -- so members were read, and not all of them were known, which leaves one way to end
  have hunknown : ¬ ∀ d ∈ classified, d.IsKnown := by
    intro hall
    obtain ⟨helper', family, hd⟩ := hall _ hclassified
    cases hd
  obtain ⟨v, braced⟩ := h.exists_tableFound (List.ne_nil_of_mem hclassified)
  obtain ⟨p, helpers, rfl, reading⟩ := h.of_tableFound braced
  cases helpers with
  | ok t => exact absurd (reading.ok_iff.1 ⟨t, rfl⟩).2 hunknown
  | error f =>
    rcases reading.error with ⟨body, -, -, rfl, -⟩ | ⟨-, hknown⟩
    · exact ⟨body, rfl⟩
    · exact absurd hknown hunknown

/-- **A trail explains how its build ended.** -/
theorem Builds.explains (h : Builds l script entry plan table classified outcome) :
    Explains l script entry plan table classified outcome where
  entry_block := h.blocks.1
  plan_block := h.blocks.2.1
  table_block := h.blocks.2.2.1
  classified_only := h.blocks.2.2.2
  plan_starts := h.starts.1
  table_starts := h.starts.2.1
  classified_starts := h.starts.2.2
  entry_missing := by
    constructor
    · intro hf
      cases h.blames hf with
      | noEntry tried => exact tried
    · intro tried
      have hne : ¬ EndsMatched entry := tried ▸ not_endsMatched_vain _ _
      obtain ⟨f, rfl, stop⟩ := h.of_not_entry hne
      exact congrArg Except.error (stop.eq_notFound tried)
  plan_missing := by
    constructor
    · intro hf
      cases h.blames hf with
      | noPlan start tried => exact .inl ⟨start, tried⟩
      | noStatement text blank => exact .inr ⟨_, text, statements_eq_nil_iff.1 blank⟩
    · rintro (⟨start, tried⟩ | ⟨t, text, blank⟩)
      · have hne : ¬ EndsMatched plan := tried ▸ not_endsMatched_vain _ _
        obtain ⟨e, f, rfl, stop⟩ := h.of_not_plan start hne
        exact congrArg Except.error (stop.eq_notFound tried)
      · exact h.of_read_eq_error text
          (Plan.read_of_statements_eq_nil (statements_eq_nil_iff.2 blank))
  table_missing := by
    constructor
    · intro hf
      cases h.blames hf with
      | noTable reached tried => exact ⟨⟨_, reached⟩, tried⟩
    · rintro ⟨⟨o, reached⟩, tried⟩
      have hne : ¬ EndsMatched table := tried ▸ not_endsMatched_vain _ _
      obtain ⟨o', f, rfl, stop⟩ := h.of_not_table reached hne
      exact congrArg Except.error (stop.eq_notFound tried)
  shape_unknown := by
    constructor
    · rintro ⟨body, hf⟩
      cases h.blames hf with
      | noShape last => exact ⟨_, _, by rw [last, ← List.append_assoc]⟩
    · rintro ⟨before, helper, last⟩
      exact h.unknownShape last
  no_integer := by
    rintro ⟨fragment, hf⟩
    cases h.blames hf with
    | noCall text table_nil classified_nil =>
      obtain ⟨e, he, ht⟩ := text
      obtain ⟨earlier, r, later, -, rfl, -⟩ := ht
      refine ⟨entry ++ vain .planText earlier, earlier.length, r.name, ?_⟩
      rw [table_nil, classified_nil, List.append_nil, List.append_nil, won, List.append_assoc]
  few_fields := by
    rintro ⟨fragment, hf⟩
    cases h.blames hf with
    | noCall text table_nil classified_nil =>
      exact .inl ⟨text.plan_endsMatched, table_nil, classified_nil⟩
    | noName braced fewer known => exact .inr ⟨_, braced, fewer, known⟩
  bad_pattern := by
    intro reason hf
    cases h.blames hf with
    | noPattern mem refused => exact ⟨_, mem, _, refused⟩
  ok := by
    constructor
    · rintro ⟨u, hu⟩
      obtain ⟨v, helpers, braced, reading⟩ := h.exists_of_ok hu
      exact ⟨v, braced, reading.ok_iff.1 ⟨helpers, rfl⟩⟩
    · rintro ⟨v, braced, hall⟩
      obtain ⟨p, helpers, rfl, reading⟩ := h.of_tableFound braced
      obtain ⟨table', rfl⟩ := reading.ok_iff.2 hall
      exact ⟨_, rfl⟩
  no_other := fun _ hf ↦ ⟨(h.blames hf).ne_emptyScript, (h.blames hf).isOfRun⟩

end Parts

/-- **The trail of a build explains its outcome.** A blank script is refused without a trail. For
any other the trail is made of the blocks of the three lookups and the decisions on helpers, and
these tell how the build ended. -/
theorem read_explained (l : Lookups) (script : List Char) :
    (script.all isBlank = true →
        (read l script).trail = [] ∧ (read l script).outcome = .error .emptyScript) ∧
      (¬ script.all isBlank = true → ∃ entry plan table classified,
        (read l script).trail = entry ++ plan ++ table ++ classified ∧
          Explains l script entry plan table classified (read l script).outcome) := by
  refine ⟨read_of_all_isBlank, fun h ↦ ?_⟩
  obtain ⟨entry, plan, table, classified, htrail, hbuilds⟩ := read_builds (l := l) h
  exact ⟨entry, plan, table, classified, htrail, hbuilds.explains⟩

end Unscrambler

end Unscramble

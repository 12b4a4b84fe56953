import Mathlib.Data.List.Nodup
import Unscramble.Proofs.PlayerScript.Found
import Unscramble.Proofs.Unscrambler.Trail

/-!
# Learning a player script

From a player script everything is learnt that it was written to say: the calls of the entry routine
in order, and the family of each helper. The parts of the script are found and read, whatever the
names are; only their length matters. The names of the routine and of the object are put into
patterns, and a pattern that gets too large for it is refused.

## Main definitions

* `PlayerScript.Fits`: the patterns with the names of the script are accepted.
* `PlayerScript.learnt`: what is to be learnt.

## Main statements

* `PlayerScript.outcome_read_text`: a script is learnt exactly if its names fit.
-/

namespace Unscramble

open Unscramble.Text Unscramble.Pattern

namespace PlayerScript

variable (s : PlayerScript)

/-! ### The patterns with the names -/

/-- The first recognizer of the plan text is a pattern with the name of the routine, and that of the
table text is one with the name of the object. -/
def Fits : Prop :=
  (∃ p, Pattern.read (planAssigned.patternText (some s.entry.chars)) = .ok p) ∧
    ∃ p, Pattern.read (tableVar.patternText (some s.object.chars)) = .ok p

theorem read_planAssigned : Pattern.read (planAssigned.patternText (some s.entry.chars)) =
    if sizeLimit < planTemplate.size + 32 * Utf8.size s.entry.chars then .error .tooLarge
    else .ok ⟨s.planNode, planTemplate.names⟩ := by
  rw [planAssigned_patternText, identifierOf_of_notMem (s.notMem_entry rfl), planTemplate.read_text]
  rfl

theorem read_tableVar : Pattern.read (tableVar.patternText (some s.object.chars)) =
    if sizeLimit < tableTemplate.size + 32 * Utf8.size s.object.chars then .error .tooLarge
    else .ok ⟨s.tableNode, tableTemplate.names⟩ := by
  rw [tableVar_patternText, identifierOf_of_notMem (s.object.notMem rfl), tableTemplate.read_text]
  rfl

theorem recognize_planAssigned :
    planAssigned.recognize s.text (some s.entry.chars) =
      if sizeLimit < planTemplate.size + 32 * Utf8.size s.entry.chars then .error .tooLarge
      else .ok (some s.statementRow) := by
  obtain ⟨q, hfind, hq⟩ := s.find?_planNode planTemplate.names
  have hcaptured : (Pattern.find? ⟨planTemplate.node s.entry.chars, planTemplate.names⟩
      s.text).bind (·.captured? 1) = some s.statementRow :=
    Option.bind_eq_some_iff.2 ⟨q, hfind, hq⟩
  rw [Recognizer.recognize_of_gapped (planAssigned_patternText _) (s.notMem_entry rfl) rfl,
    hcaptured]

theorem recognize_tableVar :
    tableVar.recognize (Lookups.flatten s.text) (some s.object.chars) =
      if sizeLimit < tableTemplate.size + 32 * Utf8.size s.object.chars then .error .tooLarge
      else .ok (some s.memberRow) := by
  obtain ⟨q, hfind, hq⟩ := s.find?_tableNode tableTemplate.names
  have hcaptured : (Pattern.find? ⟨tableTemplate.node s.object.chars, tableTemplate.names⟩
      (Lookups.flatten s.text)).bind (·.captured? 1) = some s.memberRow :=
    Option.bind_eq_some_iff.2 ⟨q, hfind, hq⟩
  rw [Recognizer.recognize_of_gapped (tableVar_patternText _) (s.object.notMem rfl) rfl, hcaptured]

/-- The names fit if neither of them makes its pattern too large. -/
theorem fits_iff : s.Fits ↔
    ¬ sizeLimit < planTemplate.size + 32 * Utf8.size s.entry.chars ∧
      ¬ sizeLimit < tableTemplate.size + 32 * Utf8.size s.object.chars := by
  rw [Fits, read_planAssigned, read_tableVar]
  refine and_congr ?_ ?_ <;>
  · split_ifs with h
    · exact iff_of_false (by rintro ⟨p, hp⟩; cases hp) (not_not.2 h)
    · exact iff_of_true ⟨_, rfl⟩ h

/-- Names of a quarter of a million characters fit. -/
theorem fits_of_length_le (hentry : s.entry.chars.length ≤ 250000)
    (hobject : s.object.chars.length ≤ 250000) : s.Fits := by
  have hplan : planTemplate.size = 212608 := by decide
  have htable : tableTemplate.size = 51080 := by decide
  have hlimit : sizeLimit = 10485760 := by decide
  have hentry' : Utf8.size s.entry.chars = s.entry.chars.length := s.entry.toPlain.size_chars
  rw [fits_iff, hplan, htable, hlimit, hentry', s.object.size_chars]
  omega

/-! ### The three lookups -/

theorem outcome_entryName : (Lookups.standard.entryName s.text).outcome = .ok s.entry.chars :=
  Lookup.outcome_run_of_captured s.recognize_entryUsual _

theorem outcome_planText : (Lookups.standard.planText s.text s.entry.chars).outcome =
    if sizeLimit < planTemplate.size + 32 * Utf8.size s.entry.chars then
      .error (.badPattern .tooLarge)
    else .ok s.statementRow := by
  have hrecognize := s.recognize_planAssigned
  split_ifs at hrecognize ⊢
  · exact Lookup.outcome_run_of_refused hrecognize _
  · exact Lookup.outcome_run_of_captured hrecognize _

theorem outcome_tableText : (Lookups.standard.tableText s.text s.object.chars).outcome =
    if sizeLimit < tableTemplate.size + 32 * Utf8.size s.object.chars then
      .error (.badPattern .tooLarge)
    else .ok s.memberRow := by
  have hrecognize := s.recognize_tableVar
  split_ifs at hrecognize ⊢
  · exact Lookup.outcome_run_of_refused hrecognize _
  · exact Lookup.outcome_run_of_captured hrecognize _

/-! ### The whole script -/

/-- What there is to be learnt from the script. -/
def learnt : Unscrambler :=
  ⟨⟨s.steps, s.steps_ne_nil⟩, HelperTable.ofList s.families⟩

theorem not_all_isBlank_text : ¬ s.text.all isBlank = true := by
  intro h
  exact absurd (List.all_eq_true.1 h 'v' List.mem_cons_self) (by decide)

/-- The entry routine is found in any case. -/
theorem outcome_read_text_eq_planStage : (Unscrambler.read .standard s.text).outcome =
    (Unscrambler.planStage .standard s.text s.entry.chars).outcome :=
  Unscrambler.outcome_read_of_entryName s.not_all_isBlank_text s.outcome_entryName

/-- With a plan text, all that is left is to look for the table. -/
theorem outcome_read_text_of_planText
    (h : (Lookups.standard.planText s.text s.entry.chars).outcome = .ok s.statementRow) :
    (Unscrambler.read .standard s.text).outcome =
      (Unscrambler.tableStage .standard s.text s.entry.chars ⟨s.steps, s.steps_ne_nil⟩
        s.object.chars).outcome :=
  s.outcome_read_text_eq_planStage.trans
    (Unscrambler.outcome_planStage_of_ok h s.read_statementRow s.objectName_statementRow)

theorem outcome_read_text_of_fits (h : s.Fits) :
    (Unscrambler.read .standard s.text).outcome = .ok s.learnt := by
  obtain ⟨hplan, htable⟩ := s.fits_iff.1 h
  have hplan' := s.outcome_planText.trans (if_neg hplan)
  have htable' := s.outcome_tableText.trans (if_neg htable)
  rw [s.outcome_read_text_of_planText hplan', (Unscrambler.tableStage_of_ok htable').2,
    s.read_memberRow]
  rfl

theorem outcome_read_text_of_not_fits (h : ¬ s.Fits) :
    (Unscrambler.read .standard s.text).outcome = .error (.badPattern .tooLarge) := by
  -- the pattern with the name of the routine is read first
  by_cases hplan : sizeLimit < planTemplate.size + 32 * Utf8.size s.entry.chars
  · have hplan' := s.outcome_planText.trans (if_pos hplan)
    rw [s.outcome_read_text_eq_planStage, Unscrambler.outcome_planStage_of_error hplan']
  · have htable : sizeLimit < tableTemplate.size + 32 * Utf8.size s.object.chars := by
      by_contra htable
      exact h (s.fits_iff.2 ⟨hplan, htable⟩)
    have hplan' := s.outcome_planText.trans (if_neg hplan)
    have htable' := s.outcome_tableText.trans (if_pos htable)
    rw [s.outcome_read_text_of_planText hplan', Unscrambler.outcome_tableStage_of_error htable']

theorem nodup_families : (s.families.map (·.1)).Nodup := by
  have hmap : s.families.map (·.1) = (s.helpers.map (·.1.chars)).map String.ofList := by
    rw [families, List.map_map, List.map_map]
    rfl
  rw [hmap]
  exact List.Nodup.map (fun _ _ ↦ String.ofList_injective) s.nodup_helpers

/-- **A player script is learnt** if its names fit: the plan has the calls of the routine in order,
and the table has the helpers of the object and no others. If a name does not fit, the pattern that
it is put into is refused, and names of a quarter of a million characters do fit. -/
theorem outcome_read_text :
    (s.Fits → ∃ u, (Unscrambler.read .standard s.text).outcome = .ok u ∧ u.plan.steps = s.steps ∧
      (∀ name family, u.helpers.get? name = some family ↔ (name, family) ∈ s.families) ∧
      u.helpers.size = s.helpers.length) ∧
    (¬ s.Fits → (Unscrambler.read .standard s.text).outcome = .error (.badPattern .tooLarge)) ∧
    (s.entry.chars.length ≤ 250000 → s.object.chars.length ≤ 250000 → s.Fits) := by
  refine ⟨fun h ↦ ⟨s.learnt, s.outcome_read_text_of_fits h, rfl, fun name family ↦ ?_, ?_⟩,
    s.outcome_read_text_of_not_fits, s.fits_of_length_le⟩
  · exact HelperTable.get?_ofList s.nodup_families
  · exact (HelperTable.size_ofList s.nodup_families).trans (List.length_map ..)

/-- A short script with an entry routine whose name is the letter `a`, written `n + 1` times. -/
def ofLength (n : ℕ) : PlayerScript where
  entry := ⟨List.replicate (n + 1) 'a', List.cons_ne_nil _ _,
    fun _ hc ↦ (List.eq_of_mem_replicate hc).symm ▸ rfl⟩
  object := ⟨['b'], List.cons_ne_nil _ _, forall_mem_of_all rfl⟩
  helpers := [(⟨['r'], List.cons_ne_nil _ _, forall_mem_of_all rfl⟩, .reverse)]
  calls := [(⟨['r'], List.cons_ne_nil _ _, forall_mem_of_all rfl⟩, ⟨0, by decide⟩)]
  helpers_ne_nil := List.cons_ne_nil _ _
  calls_ne_nil := List.cons_ne_nil _ _
  nodup_helpers := List.nodup_singleton _

/-- A script is refused for the name of its routine alone. -/
theorem outcome_read_ofLength_large :
    (Unscrambler.read .standard (ofLength 449999).text).outcome =
      .error (.badPattern .tooLarge) := by
  have hsize : Utf8.size (ofLength 449999).entry.chars = 450000 :=
    (ofLength 449999).entry.toPlain.size_chars.trans (List.length_replicate ..)
  have hlimit : sizeLimit < planTemplate.size + 32 * Utf8.size (ofLength 449999).entry.chars := by
    rw [hsize, show sizeLimit = 10485760 by decide]
    omega
  exact outcome_read_text_of_not_fits _ fun h ↦ ((fits_iff _).1 h).1 hlimit

end PlayerScript

end Unscramble

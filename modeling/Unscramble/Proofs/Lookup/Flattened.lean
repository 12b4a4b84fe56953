import Unscramble.Proofs.Lookup
import Unscramble.Proofs.Pattern.Within
import Unscramble.Proofs.Recognizers

/-!
# The layout of lines does not matter for a table

Before a table is looked for, line breaks become spaces, so the recognizers never see where the
lines of a script end. Two scripts that differ only in that are the same to them, whatever the
recognizers are. What a recognizer captures is a contiguous piece of the text that it was tried on,
and that is the flattened script, which has no line breaks.

## Main definitions

* `Lookups.SameButGaps`: two scripts that differ at most in which of their gaps are line breaks.

## Main statements

* `Recognizer.infix_of_recognize`, `Lookup.infix_of_outcome_run`: what is captured is a piece of the
  text.
* `Lookups.tableText_flattened`: lookups of tables do not depend on line breaks, and give none.
-/

namespace Unscramble

open Unscramble.Pattern

variable {text value : List Char} {name : Option (List Char)}

/-! ### Captures are pieces of the text -/

/-- **What a recognizer captures** is a contiguous piece of the text. -/
theorem Recognizer.infix_of_recognize {r : Recognizer}
    (h : r.recognize text name = .ok (some value)) : value <:+: text := by
  cases hread : Pattern.read (r.patternText name) with
  | error e =>
    rw [recognize, hread] at h
    cases h
  | ok pattern =>
    rw [recognize, hread] at h
    obtain ⟨q, hfind, hchosen⟩ := Option.bind_eq_some_iff.1 (Except.ok.inj h)
    have hq : q.Within text := within_of_find? hfind
    -- the group that is chosen may be any, but it is one of the match
    rcases Option.or_eq_some_iff.1 hchosen with hvalue | ⟨-, hfirst⟩
    · obtain ⟨i, -, hi⟩ := Option.bind_eq_some_iff.1 hvalue
      exact hq.infix_of_captured? hi
    · exact hq.infix_of_captured? hfirst

/-- What a lookup gives is a contiguous piece of the text. -/
theorem Lookup.infix_of_outcome_run {l : Lookup} (h : (l.run text name).outcome = .ok value) :
    value <:+: text := by
  obtain ⟨r, -, hr⟩ := exists_of_outcome_run h
  exact Recognizer.infix_of_recognize hr

namespace Lookups

/-! ### Gaps -/

/-- A line break or a space. -/
def IsGap (c : Char) : Prop :=
  c = '\r' ∨ c = '\n' ∨ c = ' '

/-- Two scripts that are the same but for what their gaps are: they have the same characters at the
same positions, or a gap each. -/
def SameButGaps (s t : List Char) : Prop :=
  List.Forall₂ (fun a b ↦ a = b ∨ IsGap a ∧ IsGap b) s t

/-- A gap is a space once line breaks are. -/
theorem flatten_gap {c : Char} (h : IsGap c) : flatten [c] = [' '] := by
  rcases h with rfl | rfl | rfl <;> rfl

theorem flatten_eq_of_sameButGaps {s t : List Char} (h : SameButGaps s t) :
    flatten s = flatten t := by
  induction h with
  | nil => rfl
  | @cons a b s t hab _ ih =>
    have hhead : flatten [a] = flatten [b] := by
      rcases hab with rfl | ⟨ha, hb⟩
      · rfl
      · rw [flatten_gap ha, flatten_gap hb]
    exact congrArg₂ (· ++ ·) hhead ih

theorem not_break_of_mem_flatten {s : List Char} {c : Char} (h : c ∈ flatten s) :
    c ≠ '\r' ∧ c ≠ '\n' := by
  obtain ⟨a, -, rfl⟩ := List.mem_map.1 h
  by_cases ha : a = '\r' ∨ a = '\n'
  · rw [if_pos ha]
    decide
  · rw [if_neg ha]
    exact not_or.1 ha

/-- **Line breaks do not matter for a table.** For any recognizers, scripts that differ only in
which of their gaps are line breaks give the same result with the same notes; and what is found is a
contiguous piece of the flattened script, without a line break in it. -/
theorem tableText_flattened (l : Lookups) (object : List Char) :
    (∀ s t, SameButGaps s t → l.tableText s object = l.tableText t object) ∧
      ∀ s value, (l.tableText s object).outcome = .ok value →
        value <:+: flatten s ∧ '\r' ∉ value ∧ '\n' ∉ value := by
  refine ⟨fun s t h ↦ ?_, fun s value h ↦ ?_⟩
  · rw [tableText, tableText, flatten_eq_of_sameButGaps h]
  · have hpiece : value <:+: flatten s := Lookup.infix_of_outcome_run h
    exact ⟨hpiece, fun hc ↦ (not_break_of_mem_flatten (hpiece.mem hc)).1 rfl,
      fun hc ↦ (not_break_of_mem_flatten (hpiece.mem hc)).2 rfl⟩

/-- A line break in an object does not matter, nor do two spaces in its place. -/
theorem tableText_flattened_twoLines :
    SameButGaps "var Q=\x7ba:\r\nb\x7d;".toList "var Q=\x7ba:  b\x7d;".toList ∧
      standard.tableText "var Q=\x7ba:\r\nb\x7d;".toList ['Q'] =
        standard.tableText "var Q=\x7ba:  b\x7d;".toList ['Q'] ∧
      (standard.tableText "var Q=\x7ba:\r\nb\x7d;".toList ['Q']).outcome = .ok "a:  b".toList ∧
      "a:  b".toList <:+: flatten "var Q=\x7ba:\r\nb\x7d;".toList ∧
      '\r' ∉ "a:  b".toList ∧ '\n' ∉ "a:  b".toList := by
  have hsame : SameButGaps "var Q=\x7ba:\r\nb\x7d;".toList "var Q=\x7ba:  b\x7d;".toList := by
    simp [SameButGaps, IsGap]
  have hout : (standard.tableText "var Q=\x7ba:\r\nb\x7d;".toList ['Q']).outcome =
      .ok "a:  b".toList := by
    refine Lookup.outcome_run_of_captured (r := tableVar) ?_ _
    rw [Recognizer.recognize_of_gapped (tableVar_patternText _) (by decide) rfl]
    decide +kernel
  obtain ⟨hlines, hpiece⟩ := tableText_flattened standard ['Q']
  exact ⟨hsame, hlines _ _ hsame, hout, hpiece _ _ hout⟩

end Lookups

end Unscramble

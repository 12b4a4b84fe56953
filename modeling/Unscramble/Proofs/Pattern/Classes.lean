import Mathlib.Data.List.Basic
import Unscramble.Pattern.CharClass

/-!
# Which characters a class has

White space, digits and word characters are tables of all scripts, but there are only twenty-five
characters of white space, so that none of them is a word character or a digit can be checked one by
one. The rest is about ASCII, where no table is needed.

## Main definitions

* `isPlain`: a character of the usual names.

## Main statements

* `isBlank_eq_false_of_isWord`, `isBlank_eq_false_of_isDigit`: white space is neither.
* `isPlain_cases`: a plain character is a word character or `$`.
-/

namespace Unscramble.Pattern

open Unscramble.Text

/-- The code points of white space. -/
def blankCodes : List ℕ :=
  [0x9, 0xA, 0xB, 0xC, 0xD, 0x20, 0x85, 0xA0, 0x1680, 0x2000, 0x2001, 0x2002, 0x2003, 0x2004,
    0x2005, 0x2006, 0x2007, 0x2008, 0x2009, 0x200A, 0x2028, 0x2029, 0x202F, 0x205F, 0x3000]

theorem toNat_mem_blankCodes {c : Char} (h : isBlank c = true) : c.toNat ∈ blankCodes := by
  simp only [isBlank, Bool.or_eq_true, Bool.and_eq_true, decide_eq_true_eq, beq_iff_eq] at h
  simp only [blankCodes, List.mem_cons, List.not_mem_nil, or_false]
  omega

theorem isWord_isDigit_of_mem_blankCodes : ∀ n ∈ blankCodes,
    isWord (Char.ofNat n) = false ∧ isDigit (Char.ofNat n) = false := by
  -- the tables are only searched for the codes listed above
  decide +kernel

/-- No word character is white space. -/
theorem isBlank_eq_false_of_isWord {c : Char} (h : isWord c = true) : isBlank c = false := by
  rw [Bool.eq_false_iff]
  intro hblank
  have := (isWord_isDigit_of_mem_blankCodes _ (toNat_mem_blankCodes hblank)).1
  rw [Char.ofNat_toNat, h] at this
  cases this

/-- No digit is white space. -/
theorem isBlank_eq_false_of_isDigit {c : Char} (h : isDigit c = true) : isBlank c = false := by
  rw [Bool.eq_false_iff]
  intro hblank
  have := (isWord_isDigit_of_mem_blankCodes _ (toNat_mem_blankCodes hblank)).2
  rw [Char.ofNat_toNat, h] at this
  cases this

theorem isDigit_eq_false_of_isBlank {c : Char} (h : isBlank c = true) : isDigit c = false := by
  rw [Bool.eq_false_iff]
  intro hc
  rw [isBlank_eq_false_of_isDigit hc] at h
  cases h

/-! ### Plain names -/

theorem isAlphanum_iff {c : Char} : c.isAlphanum = true ↔
    (('A' ≤ c ∧ c ≤ 'Z') ∨ ('a' ≤ c ∧ c ≤ 'z')) ∨ ('0' ≤ c ∧ c ≤ '9') := by
  show (decide (_ ∧ _) || (decide _ && decide _) || (decide _ && decide _)) = true ↔ _
  simp only [Bool.or_eq_true, Bool.and_eq_true, decide_eq_true_eq]
  rfl

theorem toNat_lt_of_isAlphanum {c : Char} (h : c.isAlphanum = true) : c.toNat < 0x80 := by
  have hle {a : Char} (hca : c ≤ a) : c.toNat ≤ a.toNat := hca
  have hZ : 'Z'.toNat = 0x5A := rfl
  have hz : 'z'.toNat = 0x7A := rfl
  have h9 : '9'.toNat = 0x39 := rfl
  rcases isAlphanum_iff.1 h with (⟨-, h⟩ | ⟨-, h⟩) | ⟨-, h⟩ <;>
    have := hle h <;> omega

/-- A character of the names that scripts are usually made of: a letter or a digit of ASCII, `_` or
`$`. -/
def isPlain (c : Char) : Bool :=
  c.isAlphanum || c == '_' || c == '$'

theorem toNat_lt_of_isPlain {c : Char} (h : isPlain c = true) : c.toNat < 0x80 := by
  simp only [isPlain, Bool.or_eq_true, beq_iff_eq] at h
  rcases h with (h | rfl) | rfl
  · exact toNat_lt_of_isAlphanum h
  · decide
  · decide

theorem isPlain_cases {c : Char} (h : isPlain c = true) : isWord c = true ∨ c = '$' := by
  simp only [isPlain, Bool.or_eq_true, beq_iff_eq] at h
  rcases h with (h | rfl) | rfl
  · refine .inl ?_
    rw [isWord, if_pos (toNat_lt_of_isAlphanum h), h]
    rfl
  · exact .inl rfl
  · exact .inr rfl

theorem isBlank_eq_false_of_isPlain {c : Char} (h : isPlain c = true) : isBlank c = false := by
  rcases isPlain_cases h with h | rfl
  · exact isBlank_eq_false_of_isWord h
  · rfl

theorem ne_of_isPlain {x c : Char} (h : isPlain x = true) (hc : isPlain c = false) : x ≠ c := by
  rintro rfl
  rw [h] at hc
  cases hc

/-- A plain name has no character that is not plain. -/
theorem notMem_of_isPlain {w : List Char} (h : ∀ x ∈ w, isPlain x = true) {c : Char}
    (hc : isPlain c = false) : c ∉ w :=
  fun hmem ↦ ne_of_isPlain (h c hmem) hc rfl

theorem isDigit_of_isDigit {c : Char} (h : c.isDigit = true) : isDigit c = true := by
  have halpha : c.isAlphanum = true := by
    rw [Char.isAlphanum, h, Bool.or_true]
  rw [isDigit, if_pos (toNat_lt_of_isAlphanum halpha), h]

end Unscramble.Pattern

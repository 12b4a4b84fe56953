import Mathlib.Data.List.Basic
import Mathlib.Tactic.IntervalCases
import Unscramble.Text.Utf8

/-!
# Reading back what was written

Every text is the only reading of its bytes: the bytes of one character are read as that character,
whatever follows them. The ranges that the reader allows for the second byte are those that the
writer uses, because a character that needs more bytes than another has a larger code point, and
because no character is a surrogate.

## Main statements

* `size_of_ascii`: an ASCII text has one byte for each character.
* `scan_encodeChar`: one character is read back.
* `decode?_encode`: a text is read back.
-/

namespace Unscramble.Text.Utf8

/-- Code points are below the surrogates or above them, and none is past the last one. -/
theorem toNat_bounds (c : Char) :
    c.toNat < 0xD800 ∨ (0xDFFF < c.toNat ∧ c.toNat < 0x110000) :=
  c.valid

/-- There is a character for every such number. -/
theorem toNat_ofNat {n : ℕ} (h : n < 0xD800 ∨ (0xDFFF < n ∧ n < 0x110000)) :
    (Char.ofNat n).toNat = n := by
  rw [Char.ofNat, dif_pos h]
  rfl

theorem toNat_toUInt8 {n : ℕ} (h : n < 256) : n.toUInt8.toNat = n := by
  simp [Nat.mod_eq_of_lt h]

/-! ### Sizes -/

theorem size_cons (c : Char) (s : List Char) : size (c :: s) = (encodeChar c).length + size s := by
  rw [size, encode, List.flatMap_cons, List.length_append]
  rfl

/-- An ASCII text has one byte for each character. -/
theorem size_of_ascii {s : List Char} (h : ∀ c ∈ s, c.toNat < 0x80) : size s = s.length := by
  induction s with
  | nil => rfl
  | cons c s ih =>
    obtain ⟨hc, hs⟩ := List.forall_mem_cons.1 h
    rw [size_cons, encodeChar, if_pos hc, ih hs, List.length_cons, List.length_cons,
      List.length_nil]
    omega

/-! ### One byte -/

theorem scan_of_opening {b : UInt8} {p : Partial} (h : lead b = .opening p) (r : List UInt8) :
    scan none (b :: r) = scan (some p) r := by
  rw [scan, h]

/-- Where a byte with six further bits lies. -/
theorem bits_bounds (k : ℕ) : 0x80 ≤ 0x80 + k % 0x40 ∧ 0x80 + k % 0x40 ≤ 0xBF := by
  omega

/-- A byte with six further bits that are in range, when more than one is needed. -/
theorem scan_more {p : Partial} {k : ℕ} (hlow : p.low ≤ 0x80 + k % 0x40)
    (hhigh : 0x80 + k % 0x40 ≤ p.high) (hmore : 1 < p.more) (r : List UInt8) :
    scan (some p) ((0x80 + k % 0x40).toUInt8 :: r) =
      scan (some ⟨p.more - 1, p.value * 0x40 + k % 0x40, 0x80, 0xBF⟩) r := by
  rw [scan, toNat_toUInt8 (by omega), if_pos ⟨hlow, hhigh⟩, if_neg (Nat.not_le.2 hmore),
    Nat.add_sub_cancel_left]

/-- The last byte of a character, with its last six bits. -/
theorem scan_last {v k : ℕ} {c : Char} (hvalue : v * 0x40 + k % 0x40 = c.toNat)
    (r : List UInt8) :
    scan (some ⟨1, v, 0x80, 0xBF⟩) ((0x80 + k % 0x40).toUInt8 :: r) = some c :: scan none r := by
  rw [scan, toNat_toUInt8 (by omega), if_pos (bits_bounds k), if_pos (Nat.le_refl 1),
    Nat.add_sub_cancel_left, hvalue, Char.ofNat_toNat]

/-! ### One character -/

/-- What the first byte of a character of two bytes begins. -/
theorem lead_of_two {n : ℕ} (hlow : 2 ≤ n) (hhigh : n < 0x20) :
    lead (0xC0 + n).toUInt8 = .opening ⟨1, n, 0x80, 0xBF⟩ := by
  interval_cases n <;> rfl

/-- What the first byte of a character of three bytes begins. -/
theorem lead_of_three {n : ℕ} (h : n < 0x10) :
    lead (0xE0 + n).toUInt8 = .opening
      ⟨2, n, if n = 0 then 0xA0 else 0x80, if n = 0xD then 0x9F else 0xBF⟩ := by
  interval_cases n <;> rfl

/-- What the first byte of a character of four bytes begins. -/
theorem lead_of_four {n : ℕ} (h : n < 5) :
    lead (0xF0 + n).toUInt8 = .opening
      ⟨3, n, if n = 0 then 0x90 else 0x80, if n = 4 then 0x8F else 0xBF⟩ := by
  interval_cases n <;> rfl

/-- **One character is read back**, whatever follows it. -/
theorem scan_encodeChar (c : Char) (r : List UInt8) :
    scan none (encodeChar c ++ r) = some c :: scan none r := by
  have hc := toNat_bounds c
  -- one case for each number of bytes
  simp only [encodeChar]
  split
  · next h1 =>
    have hb : c.toNat.toUInt8.toNat = c.toNat := toNat_toUInt8 (by omega)
    rw [List.singleton_append, scan, lead, hb, if_pos h1, Char.ofNat_toNat]
  split
  · next h1 h2 =>
    rw [List.cons_append, List.singleton_append,
      scan_of_opening (lead_of_two (by omega) (by omega))]
    exact scan_last (by omega) r
  split
  · next h1 h2 h3 =>
    rw [List.cons_append, List.cons_append, List.singleton_append,
      scan_of_opening (lead_of_three (by omega)), scan_more ?_ ?_ Nat.one_lt_two]
    · refine scan_last ?_ r
      show (c.toNat / 0x1000 * 0x40 + c.toNat / 0x40 % 0x40) * 0x40 + c.toNat % 0x40 = c.toNat
      omega
    · show (if c.toNat / 0x1000 = 0 then 0xA0 else 0x80) ≤ 0x80 + c.toNat / 0x40 % 0x40
      split <;> omega
    · show 0x80 + c.toNat / 0x40 % 0x40 ≤ if c.toNat / 0x1000 = 0xD then 0x9F else 0xBF
      split <;> omega
  · next h1 h2 h3 =>
    rw [List.cons_append, List.cons_append, List.cons_append, List.singleton_append,
      scan_of_opening (lead_of_four (by omega)), scan_more ?_ ?_ (show 1 < 3 by decide),
      scan_more (bits_bounds _).1 (bits_bounds _).2 (show 1 < 3 - 1 by decide)]
    · refine scan_last ?_ r
      show ((c.toNat / 0x40000 * 0x40 + c.toNat / 0x1000 % 0x40) * 0x40 +
        c.toNat / 0x40 % 0x40) * 0x40 + c.toNat % 0x40 = c.toNat
      omega
    · show (if c.toNat / 0x40000 = 0 then 0x90 else 0x80) ≤ 0x80 + c.toNat / 0x1000 % 0x40
      split <;> omega
    · show 0x80 + c.toNat / 0x1000 % 0x40 ≤ if c.toNat / 0x40000 = 4 then 0x8F else 0xBF
      split <;> omega

/-! ### A text -/

theorem scan_encode (s : List Char) : scan none (encode s) = s.map some := by
  induction s with
  | nil => rfl
  | cons c s ih =>
    rw [encode, List.flatMap_cons, scan_encodeChar, List.map_cons, ← ih]
    rfl

/-- **A text is read back.** -/
theorem decode?_encode (s : List Char) : decode? (encode s) = some s := by
  rw [decode?, scan_encode]
  induction s with
  | nil => rfl
  | cons c s ih =>
    rw [List.map_cons, List.mapM_cons, ih]
    rfl

/-- Nothing is replaced in the bytes of a text. -/
theorem decodeLossy_encode (s : List Char) : decodeLossy (encode s) = s := by
  rw [decodeLossy, scan_encode, List.map_map]
  exact List.map_id s

/-- Only an ASCII character has a byte below 128, and that is its code point. -/
theorem toNat_of_mem_encodeChar {c : Char} {b : UInt8} (h : b ∈ encodeChar c)
    (hb : b.toNat < 0x80) : c.toNat = b.toNat := by
  have hc := toNat_bounds c
  simp only [encodeChar] at h
  split at h
  · rw [List.mem_singleton.1 h, toNat_toUInt8 (by omega)]
  have hbig {n : ℕ} (hlow : 0x80 ≤ n) (hhigh : n < 256) : b ≠ n.toUInt8 := by
    rintro rfl
    rw [toNat_toUInt8 hhigh] at hb
    omega
  split at h
  · simp only [List.mem_cons, List.not_mem_nil, or_false] at h
    rcases h with h | h <;> exact absurd h (hbig (by omega) (by omega))
  split at h
  · simp only [List.mem_cons, List.not_mem_nil, or_false] at h
    rcases h with h | h | h <;> exact absurd h (hbig (by omega) (by omega))
  · simp only [List.mem_cons, List.not_mem_nil, or_false] at h
    rcases h with h | h | h | h <;> exact absurd h (hbig (by omega) (by omega))

end Unscramble.Text.Utf8

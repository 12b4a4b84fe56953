import Unscramble.Proofs.Text.Percent
import Unscramble.Proofs.Text.Tables
import Unscramble.Url.Domain

/-!
# What the characters of a domain name stand for

The parts of a domain name that are ASCII after its characters have been replaced are passed on as
they are. That is right only if what a character stands for needs no replacement itself, and neither
does what comes to light when it is taken apart: it must not have a capital letter in it. The tables
are checked for this.

The code points that have a capital letter in them are kept as the bits of a number.

## Main definitions

* `Stays`: a character that is passed on as it is, if it is ASCII.
* `isCapital`: a code point that is a capital letter or has one in it.
* `IsPlain`: a character that is not refused and has no capital letter in it.

## Main statements

* `replacement?_of_mem`: a run of the table replaces its code points.
* `replacement?_of_isCapital`: every character with a capital letter in it is replaced.
* `isPlain_of_fold?`: what a character stands for is plain.
-/

namespace Unscramble.Url.Domain

open Unscramble.Text Unscramble.Text.Normal

/-! ### Capital letters -/

/-- Add the code points whose first part is among those of `bits`. -/
def addMade : List (ℕ × ℕ × ℕ) → (bits : ℕ) → ℕ
  | [], bits => bits
  | (n, a, _) :: r, bits =>
    match bits.testBit a with
    | true => addMade r (bits ||| 1 <<< n)
    | false => addMade r bits

/-- The code points that are a capital letter of ASCII or have one in them. A row can come before
that of its first part, so the table is gone through twice. -/
def capitalBits : ℕ :=
  addMade decompositions.toList (addMade decompositions.toList (0x3FFFFFF <<< 0x41))

/-- A code point that is a capital letter of ASCII or has one in it. -/
def isCapital (n : ℕ) : Bool :=
  capitalBits.testBit n

/-- One of the characters that have a `<` or a `>` in them. -/
def isStruck (c : Char) : Bool :=
  c == '≮' || c == '≯'

/-- A character that is passed on as it is, if it is ASCII. -/
def Stays (c : Char) : Prop :=
  c.toNat < 0x80 → fold? c = some [c]

theorem stays_of_le {c : Char} (h : 0x80 ≤ c.toNat) : Stays c :=
  fun hc ↦ absurd hc (Nat.not_lt.2 h)

/-- A character that is not refused and has no capital letter in it. -/
structure IsPlain (c : Char) : Prop where
  isForbidden_eq : isForbidden c = false
  isCapital_eq : isCapital c.toNat = false

theorem isForbidden_of_le {c : Char} (h : 0x80 ≤ c.toNat) : isForbidden c = false := by
  rw [Bool.eq_false_iff]
  intro hc
  have hascii : ∀ d ∈ "#%/:<>?@[\\]^|".toList, d.toNat < 0x80 := by simp
  simp only [isForbidden, Bool.or_eq_true, decide_eq_true_iff, beq_iff_eq,
    List.contains_iff_mem] at hc
  rcases hc with (hc | hc) | hc
  · omega
  · omega
  · exact absurd (hascii c hc) (Nat.not_lt.2 h)

theorem IsPlain.stays {c : Char} (h : IsPlain c) : Stays c := by
  intro hc
  have hall : ∀ n < 0x80, isForbidden (Char.ofNat n) = false →
      isCapital (Char.ofNat n).toNat = false → fold? (Char.ofNat n) = some [Char.ofNat n] := by
    decide +kernel
  exact forall_ascii (P := fun c ↦ isForbidden c = false → isCapital c.toNat = false →
    fold? c = some [c]) hall hc h.isForbidden_eq h.isCapital_eq

theorem isPlain_toLower {c : Char} (hc : c.toNat < 0x80) (h : isForbidden c = false) :
    IsPlain c.toLower := by
  have hall : ∀ n < 0x80, isForbidden (Char.ofNat n) = false →
      isForbidden (Char.ofNat n).toLower = false ∧
        isCapital (Char.ofNat n).toLower.toNat = false := by
    decide +kernel
  obtain ⟨hforbidden, hcapital⟩ := forall_ascii (P := fun c ↦ isForbidden c = false →
    isForbidden c.toLower = false ∧ isCapital c.toLower.toNat = false) hall hc h
  exact ⟨hforbidden, hcapital⟩

/-! ### Replaced characters -/

/-- The last code point of a run. -/
def lastOf (row : ℕ × ℕ × ℕ × ℕ) : ℕ :=
  row.1 + row.2.2.1 * (row.2.1 - 1)

/-- A run of at least one code point that ends before another begins. -/
def Precedes (row other : ℕ × ℕ × ℕ × ℕ) : Prop :=
  row.1 ≤ lastOf row ∧ lastOf row < other.1

instance (row other : ℕ × ℕ × ℕ × ℕ) : Decidable (Precedes row other) :=
  inferInstanceAs (Decidable (_ ∧ _))

theorem pairwise_replacedRuns : replacedRuns.toList.Pairwise Precedes := by
  have : IsTrans (ℕ × ℕ × ℕ × ℕ) Precedes :=
    ⟨fun _ _ _ h h' ↦ ⟨h.1, (h.2.trans_le h'.1).trans h'.2⟩⟩
  have hchain : replacedRuns.toList.IsChain Precedes := by decide +kernel
  exact hchain.pairwise

/-- **A run of the table replaces its code points.** -/
theorem replacement?_of_mem {first count step target i : ℕ} {c : Char}
    (h : (first, count, step, target) ∈ replacedRuns.toList) (hi : i < count) (hstep : 0 < step)
    (hc : c.toNat = first + step * i) :
    replacement? c = some [Char.ofNat (target + step * i)] := by
  have hfirst : first ≤ c.toNat := hc ▸ Nat.le_add_right _ _
  have hend : c.toNat ≤ lastOf (first, count, step, target) := by
    rw [hc]
    exact Nat.add_le_add_left (Nat.mul_le_mul_left _ (Nat.le_sub_one_of_lt hi)) _
  have hlast : lastRow replacedRuns (·.1) c.toNat = some (first, count, step, target) :=
    lastRow_eq_some_of_mem pairwise_replacedRuns h hfirst
      (fun _ hrow ↦ hrow.1.trans (hrow.2.le.trans hfirst)) fun _ hrow ↦ hend.trans_lt hrow.2
  have hplace : (c.toNat - first) / step = i := by
    rw [hc, Nat.add_sub_cancel_left, Nat.mul_div_cancel_left _ hstep]
  unfold replacement?
  rw [hlast]
  show (if first + step * ((c.toNat - first) / step) = c.toNat ∧
    (c.toNat - first) / step < count then _ else _) = _
  rw [hplace]
  exact if_pos ⟨hc.symm, hi⟩

/-- Numbers as the bits of one. -/
def bitsOf : List ℕ → ℕ
  | [] => 0
  | n :: r => bitsOf r ||| 1 <<< n

theorem mem_of_testBit_bitsOf {l : List ℕ} {n : ℕ} (h : (bitsOf l).testBit n = true) : n ∈ l := by
  induction l with
  | nil => simp [bitsOf] at h
  | cons m l ih =>
    rw [bitsOf, Nat.testBit_or, Bool.or_eq_true, Nat.one_shiftLeft, Nat.testBit_two_pow,
      decide_eq_true_iff] at h
    rcases h with h | rfl
    · exact List.mem_cons_of_mem m (ih h)
    · exact List.mem_cons_self

/-- The code points of the runs that begin below a bound. -/
def replacedBelow (bound : ℕ) : List ℕ :=
  (replacedRuns.toList.filter fun row ↦ Nat.blt row.1 bound).flatMap fun row ↦
    (List.range row.2.1).map fun i ↦ row.1 + row.2.2.1 * i

/-- **Every capital letter is replaced.** -/
theorem replacement?_of_isCapital {c : Char} (h : isCapital c.toNat = true) :
    replacement? c ≠ none := by
  have hsteps : ∀ row ∈ replacedRuns.toList, 0 < row.2.2.1 := by decide +kernel
  -- one of them stands for two characters, so it is in the other table
  have hbits : capitalBits ||| bitsOf ('İ'.toNat :: replacedBelow 0x2200) =
      bitsOf ('İ'.toNat :: replacedBelow 0x2200) := by
    decide +kernel
  have hbit : (bitsOf ('İ'.toNat :: replacedBelow 0x2200)).testBit c.toNat = true := by
    rw [← hbits, Nat.testBit_or, ← isCapital, h, Bool.true_or]
  rcases List.mem_cons.1 (mem_of_testBit_bitsOf hbit) with hc | hc
  · rw [Char.toNat_inj.1 hc]
    decide +kernel
  · obtain ⟨⟨first, count, step, target⟩, hrow, hcode⟩ := List.mem_flatMap.1 hc
    obtain ⟨i, hi, hc⟩ := List.mem_map.1 hcode
    have hmem := (List.mem_filter.1 hrow).1
    rw [replacement?_of_mem hmem (List.mem_range.1 hi) (hsteps _ hmem) hc.symm]
    exact Option.some_ne_none _

/-- What replaces a character is in one of the two tables. -/
theorem cases_of_replacement? {c : Char} {cs : List Char} (h : replacement? c = some cs) :
    (∃ row ∈ replacedRuns.toList, ∃ i < row.2.1, cs = [Char.ofNat (row.2.2.2 + row.2.2.1 * i)]) ∨
      ∃ row ∈ expansions.toList, cs = row.2.toList := by
  have hexpansion : ∀ {cs}, replacement?.expansion? c = some cs →
      ∃ row ∈ expansions.toList, cs = row.2.toList := by
    intro cs h
    unfold replacement?.expansion? at h
    split at h
    · next n s hrow =>
      split at h
      · exact ⟨(n, s), (of_lastRow hrow).1, (Option.some.inj h).symm⟩
      · cases h
    · cases h
  unfold replacement? at h
  split at h
  · next first count step target hrow =>
    dsimp only at h
    split at h
    · next hplace =>
      exact .inl ⟨_, (of_lastRow hrow).1, _, hplace.2, (Option.some.inj h).symm⟩
    · exact .inr (hexpansion h)
  · exact .inr (hexpansion h)

/-- What replaces a character has no capital letter in it. -/
theorem isCapital_of_replacement? {c x : Char} {cs : List Char} (h : replacement? c = some cs)
    (hx : x ∈ cs) : isCapital x.toNat = false := by
  have hruns : (replacedRuns.toList.all fun row ↦ (List.range row.2.1).all fun i ↦
      !isCapital (Char.ofNat (row.2.2.2 + row.2.2.1 * i)).toNat) = true := by
    decide +kernel
  have hexpansions : (expansions.toList.all fun row ↦ row.2.toList.all fun d ↦
      !isCapital d.toNat) = true := by
    decide +kernel
  rcases cases_of_replacement? h with ⟨row, hrow, i, hi, rfl⟩ | ⟨row, hrow, rfl⟩
  · have := List.all_eq_true.1 (List.all_eq_true.1 hruns row hrow) i (List.mem_range.2 hi)
    rw [List.mem_singleton.1 hx]
    simpa using this
  · have := List.all_eq_true.1 (List.all_eq_true.1 hexpansions row hrow) x hx
    simpa using this

/-- **What a character stands for has no capital letter in it**, and is not refused. -/
theorem isPlain_of_fold? {c x : Char} {cs : List Char} (h : fold? c = some cs) (hx : x ∈ cs) :
    IsPlain x := by
  rw [fold?] at h
  split at h
  case isTrue hc =>
    split at h
    · cases h
    · next hforbidden =>
      obtain rfl := Option.some.inj h
      rw [List.mem_singleton.1 hx]
      exact isPlain_toLower hc (Bool.eq_false_iff.2 hforbidden)
  case isFalse hc =>
    split at h
    · cases h
    · split at h
      · obtain rfl := Option.some.inj h
        cases hx
      · split at h
        · next hnone =>
          obtain rfl := Option.some.inj h
          obtain rfl := List.mem_singleton.1 hx
          refine ⟨isForbidden_of_le (Nat.not_lt.1 hc), Bool.eq_false_iff.2 fun hcapital ↦ ?_⟩
          exact replacement?_of_isCapital hcapital hnone
        · next hreplaced =>
          split at h
          · cases h
          · next hany =>
            obtain rfl := Option.some.inj h
            refine ⟨?_, isCapital_of_replacement? hreplaced hx⟩
            rw [Bool.eq_false_iff]
            exact fun hforbidden ↦ hany (List.any_eq_true.2 ⟨x, hx, hforbidden⟩)

end Unscramble.Url.Domain

import Mathlib.Algebra.Group.Nat.Defs
import Mathlib.Data.List.Basic
import Unscramble.Proofs.Text.Split
import Unscramble.Url.Ipv4
import Unscramble.Url.Ipv6

/-!
# Addresses are read back

A written address is read as the address that it was written for. One of four bytes is four decimal
numbers. One of eight pieces is written in two runs of groups with the zero pieces between them left
out, or in one run; the two colons in a row are found where they were written because no run has
two colons in a row.

## Main statements

* `Hex.value?_lower`: a hexadecimal number is read back.
* `Ipv4.read?_text`, `Ipv6.read?_text`: an address is read back.
* `Ipv4.looksLike_text`: the text of an address of four bytes must be read as one.
-/

namespace Unscramble

open Unscramble.Text

/-! ### Hexadecimal numbers -/

namespace Text.Hex

theorem digit?_lowerDigit {d : ℕ} (h : d < 16) : digit? (lowerDigit d) = some d := by
  have hall : ∀ d < 16, digit? (lowerDigit d) = some d := by decide
  exact hall d h

theorem lower_ne_nil (n : ℕ) : lower n ≠ [] := by
  rw [lower]
  split
  · exact List.cons_ne_nil _ _
  · exact List.append_ne_nil_of_right_ne_nil _ (List.cons_ne_nil _ _)

/-- A number below `16 ^ k` has at most `k` digits, but at least one. -/
theorem length_lower_le {n k : ℕ} (h : n < 16 ^ (k + 1)) : (lower n).length ≤ k + 1 := by
  induction k generalizing n with
  | zero =>
    rw [lower, if_pos (by omega)]
    exact le_rfl
  | succ k ih =>
    rw [lower]
    split
    · exact Nat.succ_le_succ (Nat.zero_le _)
    · rw [List.length_append]
      exact Nat.succ_le_succ (ih (Nat.div_lt_of_lt_mul (by omega)))

theorem mem_lower {n : ℕ} {c : Char} (h : c ∈ lower n) : ∃ d < 16, c = lowerDigit d := by
  induction n using Nat.strong_induction_on with
  | h n ih =>
    rw [lower] at h
    split at h
    · next hn => exact ⟨n, hn, List.mem_singleton.1 h⟩
    · rcases List.mem_append.1 h with h | h
      · exact ih _ (Nat.div_lt_self (by omega) (by decide)) h
      · exact ⟨n % 16, Nat.mod_lt _ (by decide), List.mem_singleton.1 h⟩

/-- **A hexadecimal number is read back.** -/
theorem value?_lower (n : ℕ) : value? (lower n) = some n := by
  have hfold : (lower n).foldlM (fun n c ↦ (digit? c).map (n * 16 + ·)) 0 = some n := by
    induction n using Nat.strong_induction_on with
    | h n ih =>
      rw [lower]
      split
      · next hn =>
        rw [List.foldlM_cons, digit?_lowerDigit hn]
        show some (0 * 16 + n) = some n
        rw [Nat.zero_mul, Nat.zero_add]
      · rw [List.foldlM_append, ih _ (Nat.div_lt_self (by omega) (by decide))]
        rw [Option.bind_eq_bind, Option.bind_some, List.foldlM_cons,
          digit?_lowerDigit (Nat.mod_lt _ (by decide))]
        show some (n / 16 * 16 + n % 16) = some n
        rw [Nat.div_add_mod']
  cases hlower : lower n with
  | nil => exact absurd hlower (lower_ne_nil n)
  | cons c r =>
    rw [hlower] at hfold
    exact hfold

end Text.Hex

namespace Url

/-! ### Four bytes -/

namespace Ipv4

/-- The bytes of an address. -/
def bytesOf (n : ℕ) : List ℕ :=
  [n / 0x1000000, n / 0x10000 % 0x100, n / 0x100 % 0x100, n % 0x100]

theorem text_eq (a : Ipv4) :
    a.text = ['.'].intercalate ((bytesOf a.value.toNat).map (Nat.toDigits 10)) := by
  rw [text]
  refine congrArg _ (List.map_congr_left fun b _ ↦ ?_)
  exact Nat.toList_repr

theorem lt_of_mem_bytesOf (a : Ipv4) : ∀ b ∈ bytesOf a.value.toNat, b < 256 := by
  have := a.value.toNat_lt
  simp only [bytesOf, List.mem_cons, List.not_mem_nil, or_false]
  omega

/-- A byte in decimal is read back. -/
theorem number?_toDigits {b : ℕ} (h : b < 256) : number? (Nat.toDigits 10 b) = some b := by
  have hall : ∀ b < 256, number? (Nat.toDigits 10 b) = some b := by decide +kernel
  exact hall b h

theorem isDigit_or_of_mem_text {a : Ipv4} {c : Char} (h : c ∈ a.text) :
    c.isDigit = true ∨ c = '.' := by
  rw [text_eq] at h
  refine forall_mem_intercalate (p := fun c ↦ c.isDigit = true ∨ c = '.')
    (fun c hc ↦ .inr (List.mem_singleton.1 hc)) (fun s hs c hc ↦ .inl ?_) c h
  obtain ⟨b, -, rfl⟩ := List.mem_map.1 hs
  exact Nat.isDigit_of_mem_toDigits (by decide) (by decide) hc

theorem parts_text (a : Ipv4) :
    parts a.text = (bytesOf a.value.toNat).map (Nat.toDigits 10) := by
  have hpieces : pieces (· == '.') a.text = (bytesOf a.value.toNat).map (Nat.toDigits 10) := by
    rw [text_eq]
    refine pieces_intercalate (List.cons_ne_nil _ _) fun s hs hdot ↦ ?_
    obtain ⟨b, -, rfl⟩ := List.mem_map.1 hs
    have := Nat.isDigit_of_mem_toDigits (by decide) (by decide) hdot
    revert this
    decide
  rw [parts, hpieces]
  refine if_neg fun h ↦ ?_
  have hlast : some (Nat.toDigits 10 (a.value.toNat % 0x100)) = some [] := h.2
  exact Nat.toDigits_ne_nil (Option.some.inj hlast)

/-- The text of an address must be read as one. -/
theorem looksLike_text (a : Ipv4) : looksLike a.text = true := by
  have hlast : (parts a.text).getLast? = some (Nat.toDigits 10 (a.value.toNat % 0x100)) := by
    rw [parts_text]
    rfl
  have hdigits : (Nat.toDigits 10 (a.value.toNat % 0x100)).all Char.isDigit = true :=
    List.all_eq_true.2 fun c hc ↦ Nat.isDigit_of_mem_toDigits (by decide) (by decide) hc
  rw [looksLike, hlast]
  cases hpart : Nat.toDigits 10 (a.value.toNat % 0x100) with
  | nil => exact absurd hpart Nat.toDigits_ne_nil
  | cons c r =>
    rw [hpart] at hdigits
    show ((c :: r).all Char.isDigit || _) = true
    rw [hdigits, Bool.true_or]

/-- A last part fills the room that is left. -/
theorem combine?_singleton (room n : ℕ) :
    combine? room [n] = if n < 256 ^ room then some n else none := by
  cases room <;> rfl

/-- A part in front of another is a byte. -/
theorem combine?_cons_cons (room n m : ℕ) (r : List ℕ) :
    combine? (room + 1) (n :: m :: r) =
      if n < 256 then (combine? room (m :: r)).map (n * 256 ^ room + ·) else none :=
  rfl

/-- The value of four bytes. -/
theorem combine?_bytesOf (a : Ipv4) :
    combine? 4 (bytesOf a.value.toNat) = some a.value.toNat := by
  have hlt := a.value.toNat_lt
  simp only [bytesOf, combine?_cons_cons, combine?_singleton]
  rw [if_pos (by omega), if_pos (by omega), if_pos (by omega), if_pos (by omega)]
  simp only [Option.map_some]
  congr 1
  omega

/-- **An address of four bytes is read back.** -/
theorem read?_text (a : Ipv4) : read? a.text = some a := by
  have hnumbers : (parts a.text).mapM number? = some (bytesOf a.value.toNat) := by
    have hlt := lt_of_mem_bytesOf a
    rw [parts_text]
    generalize bytesOf a.value.toNat = bytes at hlt
    induction bytes with
    | nil => rfl
    | cons b bytes ih =>
      rw [List.forall_mem_cons] at hlt
      rw [List.map_cons, List.mapM_cons, number?_toDigits hlt.1, ih hlt.2]
      rfl
  rw [read?, hnumbers]
  show (do return ⟨(← combine? 4 (bytesOf a.value.toNat)).toUInt32⟩ : Option Ipv4) = some a
  rw [combine?_bytesOf]
  show some (⟨a.value.toNat.toUInt32⟩ : Ipv4) = some a
  rw [Nat.toUInt32, UInt32.ofNat_toNat]

end Ipv4

/-! ### Eight pieces -/

namespace Ipv6

/-- A character of a group. -/
def isGroupChar (c : Char) : Bool :=
  c.isDigit || ('a' ≤ c && c ≤ 'f')

theorem isGroupChar_of_mem_lower {n : ℕ} {c : Char} (h : c ∈ Hex.lower n) :
    isGroupChar c = true := by
  obtain ⟨d, hd, rfl⟩ := Hex.mem_lower h
  have hall : ∀ d < 16, isGroupChar (Hex.lowerDigit d) = true := by decide
  exact hall d hd

theorem notMem_lower {c : Char} (hc : isGroupChar c = false) (n : ℕ) : c ∉ Hex.lower n := by
  intro h
  rw [isGroupChar_of_mem_lower h] at hc
  cases hc

/-- A piece is read back from its group. -/
theorem group?_lower (p : UInt16) : group? (Hex.lower p.toNat) = some p := by
  have hlength : (Hex.lower p.toNat).length ≤ 4 := Hex.length_lower_le (k := 3) p.toNat_lt
  rw [group?, if_pos hlength, Hex.value?_lower, Option.map_some, Nat.toUInt16, UInt16.ofNat_toNat]

/-! ### Runs -/

theorem textRun_cons_cons (p q : UInt16) (r : List UInt16) :
    textRun (p :: q :: r) = Hex.lower p.toNat ++ ':' :: textRun (q :: r) := by
  rw [textRun, List.map_cons, List.map_cons, List.intercalate_cons_cons, List.append_assoc,
    List.singleton_append]
  rfl

theorem textRun_singleton (p : UInt16) : textRun [p] = Hex.lower p.toNat := by
  rw [textRun, List.map_singleton, List.intercalate_singleton]

theorem pieces_textRun {ps : List UInt16} (hne : ps ≠ []) :
    Text.pieces (· == ':') (textRun ps) = ps.map fun p ↦ Hex.lower p.toNat := by
  refine pieces_intercalate (by simpa using hne) fun s hs ↦ ?_
  obtain ⟨p, -, rfl⟩ := List.mem_map.1 hs
  exact notMem_lower (by decide) _

theorem groups?_lower (tail : Bool) (ps : List UInt16) :
    groups? tail (ps.map fun p ↦ Hex.lower p.toNat) = some ps := by
  induction ps with
  | nil => rfl
  | cons p ps ih =>
    cases ps with
    | nil =>
      have hdot : (Hex.lower p.toNat).contains '.' = false := by
        rw [List.contains_eq_mem, decide_eq_false_iff_not]
        exact notMem_lower (by decide) _
      rw [List.map_singleton, groups?, hdot, Bool.and_false, if_neg Bool.false_ne_true,
        group?_lower]
      rfl
    | cons q ps =>
      rw [List.map_cons] at ih
      rw [List.map_cons, List.map_cons, groups?, group?_lower, ih]
      · rfl
      · exact List.cons_ne_nil _ _

/-- **A run of pieces is read back.** -/
theorem run?_textRun (tail : Bool) (ps : List UInt16) : run? tail (textRun ps) = some ps := by
  by_cases hne : ps = []
  · rw [hne]
    rfl
  · have hpieces := pieces_textRun hne
    have hempty : (textRun ps).isEmpty = false := by
      rw [List.isEmpty_eq_false_iff]
      intro hnil
      obtain ⟨p, r, rfl⟩ := List.exists_cons_of_ne_nil hne
      have hmap : [[]] = (p :: r).map fun p ↦ Hex.lower p.toNat := by
        rw [← hpieces, hnil]
        rfl
      exact Hex.lower_ne_nil _ (List.cons.inj hmap).1.symm
    rw [run?, hempty, if_neg Bool.false_ne_true, hpieces, groups?_lower]

theorem mem_textRun {ps : List UInt16} {c : Char} (h : c ∈ textRun ps) :
    isGroupChar c = true ∨ c = ':' := by
  refine forall_mem_intercalate (p := fun c ↦ isGroupChar c = true ∨ c = ':')
    (fun c hc ↦ .inr (List.mem_singleton.1 hc)) (fun s hs c hc ↦ .inl ?_) c h
  obtain ⟨p, -, rfl⟩ := List.mem_map.1 hs
  exact isGroupChar_of_mem_lower hc

/-! ### Gaps -/

theorem cutGap?_append {w : List Char} (h : ':' ∉ w) (r : List Char) :
    cutGap? (w ++ r) = (cutGap? r).map fun (a, b) ↦ (w ++ a, b) := by
  induction w with
  | nil => cases hr : cutGap? r <;> simp [hr]
  | cons c w ih =>
    rw [List.mem_cons, not_or] at h
    rw [List.cons_append, cutGap?, ih h.2, Option.map_map]
    · rfl
    · rintro r' rfl -
      exact h.1 rfl

theorem cutGap?_colon {c : Char} (hc : c ≠ ':') (r : List Char) :
    cutGap? (':' :: c :: r) = (cutGap? (c :: r)).map fun (a, b) ↦ (':' :: a, b) := by
  rw [cutGap?]
  rintro r' - h
  exact hc (List.cons.inj h).1

/-- A run that has a piece does not begin with a colon. -/
theorem exists_cons_textRun (p : UInt16) (ps : List UInt16) :
    ∃ c w, textRun (p :: ps) = c :: w ∧ c ≠ ':' := by
  obtain ⟨c, w, hlower⟩ := List.exists_cons_of_ne_nil (Hex.lower_ne_nil p.toNat)
  have hc : c ≠ ':' := by
    rintro rfl
    exact notMem_lower (by decide) p.toNat (hlower ▸ List.mem_cons_self)
  cases ps with
  | nil => exact ⟨c, w, by rw [textRun_singleton, hlower], hc⟩
  | cons q ps => exact ⟨c, _, by rw [textRun_cons_cons, hlower, List.cons_append], hc⟩

/-- No run has two colons in a row. -/
theorem cutGap?_textRun (ps : List UInt16) (r : List Char) :
    cutGap? (textRun ps ++ r) = (cutGap? r).map fun (a, b) ↦ (textRun ps ++ a, b) := by
  induction ps with
  | nil => cases hr : cutGap? r <;> simp [textRun, hr]
  | cons p ps ih =>
    cases ps with
    | nil =>
      rw [textRun_singleton]
      exact cutGap?_append (notMem_lower (by decide) _) r
    | cons q ps =>
      obtain ⟨c, w, hcw, hc⟩ := exists_cons_textRun q ps
      rw [hcw, List.cons_append] at ih
      rw [textRun_cons_cons, List.append_assoc, cutGap?_append (notMem_lower (by decide) _), hcw,
        List.cons_append, List.cons_append, cutGap?_colon hc, ih]
      cases cutGap? r <;> simp

theorem replicate_zeros (ps : List UInt16) :
    List.replicate (zeros ps) 0 ++ ps.drop (zeros ps) = ps := by
  induction ps with
  | nil => rfl
  | cons p ps ih =>
    by_cases hp : p = 0
    · rw [hp, zeros, List.replicate_succ, List.drop_succ_cons, List.cons_append, ih]
    · have hzeros : zeros (p :: ps) = 0 := by
        rw [zeros]
        rintro r h
        exact hp (List.cons.inj h).1
      rw [hzeros]
      rfl

/-- The pieces before the gap, the zeros in it, and the pieces behind it are all pieces. -/
theorem longestGap_spec (ps : List UInt16) :
    ps.take (longestGap ps).1 ++ List.replicate (longestGap ps).2 0 ++
      ps.drop ((longestGap ps).1 + (longestGap ps).2) = ps := by
  induction ps with
  | nil => rfl
  | cons p ps ih =>
    rw [longestGap]
    dsimp only
    split
    · rw [List.take_zero, List.nil_append, Nat.zero_add]
      exact replicate_zeros (p :: ps)
    · rw [List.take_succ_cons, Nat.succ_add, List.drop_succ_cons, List.cons_append,
        List.cons_append, ih]

/-! ### Written addresses -/

theorem ofList?_pieces (a : Ipv6) : ofList? a.pieces = some a :=
  dif_pos a.length_pieces

theorem mem_text {a : Ipv6} {c : Char} (h : c ∈ a.text) : isGroupChar c = true ∨ c = ':' := by
  rw [text] at h
  dsimp only at h
  split at h
  · exact mem_textRun h
  · rcases List.mem_append.1 h with h | h
    · rcases List.mem_append.1 h with h | h
      · exact mem_textRun h
      · simp only [List.mem_cons, List.not_mem_nil, or_false, or_self] at h
        exact .inr h
    · exact mem_textRun h

/-- **An address of eight pieces is read back.** -/
theorem read?_text (a : Ipv6) : read? a.text = some a := by
  rw [text]
  dsimp only
  split
  · have hgap : cutGap? (textRun a.pieces) = none := by
      have := cutGap?_textRun a.pieces []
      rwa [List.append_nil] at this
    rw [read?, hgap, run?_textRun]
    exact ofList?_pieces a
  · next hsize =>
    have hspec := longestGap_spec a.pieces
    generalize longestGap a.pieces = gap at hsize hspec
    generalize a.pieces.take gap.1 = front at hspec
    generalize a.pieces.drop (gap.1 + gap.2) = back at hspec
    have hgap : cutGap? (textRun front ++ [':', ':'] ++ textRun back) =
        some (textRun front, textRun back) := by
      rw [List.append_assoc, cutGap?_textRun]
      show some (textRun front ++ [], textRun back) = _
      rw [List.append_nil]
    have hlength : front.length + gap.2 + back.length = 8 := by
      rw [← a.length_pieces, ← hspec, List.length_append, List.length_append,
        List.length_replicate]
    have hrest : 8 - (front.length + back.length) = gap.2 := by omega
    rw [read?, hgap]
    dsimp only
    rw [run?_textRun, run?_textRun]
    show (if front.length + back.length < 8 then
      ofList? (front ++ List.replicate (8 - (front.length + back.length)) 0 ++ back) else none) = _
    rw [if_pos (by omega), hrest, hspec, ofList?_pieces]

end Ipv6

end Url

end Unscramble

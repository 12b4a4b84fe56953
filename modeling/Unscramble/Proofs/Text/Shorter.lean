import Unscramble.Proofs.Text.Form

/-!
# Reading a form does not lengthen it

A text that is read as a key or a value is never longer than what it was read from. This is not seen
from the bytes alone, since a character can have four of them: each byte of a triplet pays for its
triplet, and a character of the text pays for itself whatever character is in progress in front of
it. What is in progress when a character or a triplet is reached is kept account of as `pending`,
and costs one replacement character at most.

## Main definitions

* `Utf8.pending`: the number of characters in progress.
* `Utf8.IsOpen`: a character in progress can only go on with a byte that begins none.

## Main statements

* `Utf8.exists_scan_cons`: what one byte adds.
* `Utf8.length_scan_encodeChar`: what a whole character adds.
* `Form.length_decode_le`: a key or a value is not longer than its written form.
* `Form.length_le_of_mem_decodePairs`: the values of a query.
-/

namespace Unscramble.Text

namespace Utf8

/-! ### Characters in progress -/

/-- A character in progress that can only go on with a byte that begins none. -/
def Partial.IsOpen (p : Partial) : Prop :=
  0x80 ≤ p.low ∧ p.high ≤ 0xBF

/-- The number of characters in progress. -/
def pending : Option Partial → ℕ
  | none => 0
  | some _ => 1

theorem isOpen_of_lead {b : UInt8} {p : Partial} (h : lead b = .opening p) : p.IsOpen := by
  unfold lead at h
  dsimp only at h
  split at h
  · cases h
  iterate 7
    split at h
    · cases h
      exact ⟨by simp, by simp⟩
  cases h

/-- A byte that does not go on with the character in progress breaks it off. -/
theorem scan_some_cons {p : Partial} {b : UInt8} (h : ¬ (p.low ≤ b.toNat ∧ b.toNat ≤ p.high))
    (r : List UInt8) : scan (some p) (b :: r) = none :: scan none (b :: r) := by
  simp only [scan, if_neg h]
  cases lead b <;> rfl

/-- **What one byte adds**: a character, or one more in progress. -/
theorem exists_scan_cons {state : Option Partial} (h : ∀ p ∈ state, p.IsOpen) (b : UInt8) :
    ∃ out next, (∀ p ∈ next, Partial.IsOpen p) ∧
      out.length + pending next ≤ pending state + 1 ∧
        ∀ r, scan state (b :: r) = out ++ scan next r := by
  have hfirst : ∃ out next, (∀ p ∈ next, Partial.IsOpen p) ∧ out.length + pending next ≤ 1 ∧
      ∀ r, scan none (b :: r) = out ++ scan next r := by
    cases hlead : lead b with
    | whole c => exact ⟨[some c], none, by simp, Nat.le_refl 1, fun r ↦ by rw [scan, hlead]; rfl⟩
    | opening p =>
      refine ⟨[], some p, ?_, Nat.le_refl 1, fun r ↦ by rw [scan, hlead]; rfl⟩
      rintro q ⟨rfl⟩
      exact isOpen_of_lead hlead
    | stray => exact ⟨[none], none, by simp, Nat.le_refl 1, fun r ↦ by rw [scan, hlead]; rfl⟩
  cases state with
  | none => exact hfirst
  | some p =>
    by_cases hrange : p.low ≤ b.toNat ∧ b.toNat ≤ p.high
    · by_cases hmore : p.more ≤ 1
      · exact ⟨[_], none, by simp, (by decide : 1 ≤ 2), fun r ↦ by
          rw [scan, if_pos hrange, if_pos hmore]; rfl⟩
      · refine ⟨[], some _, ?_, (by decide : 1 ≤ 2), fun r ↦ by
          rw [scan, if_pos hrange, if_neg hmore]; rfl⟩
        rintro q ⟨rfl⟩
        exact ⟨Nat.le_refl _, Nat.le_refl _⟩
    · obtain ⟨out, next, hnext, hlength, hscan⟩ := hfirst
      refine ⟨none :: out, next, hnext, ?_, fun r ↦ by rw [scan_some_cons hrange, hscan]; rfl⟩
      rw [List.length_cons, pending]
      omega

/-- The first byte of a character goes on with no other character. -/
theorem toNat_of_encodeChar_eq_cons {c : Char} {b : UInt8} {r : List UInt8}
    (h : encodeChar c = b :: r) : b.toNat < 0x80 ∨ 0xBF < b.toNat := by
  have hc := toNat_bounds c
  simp only [encodeChar] at h
  split at h
  · obtain ⟨rfl, -⟩ := List.cons.inj h
    rw [toNat_toUInt8 (by omega)]
    omega
  iterate 2
    split at h
    · obtain ⟨rfl, -⟩ := List.cons.inj h
      rw [toNat_toUInt8 (by omega)]
      omega
  · obtain ⟨rfl, -⟩ := List.cons.inj h
    rw [toNat_toUInt8 (by omega)]
    omega

/-- **What a whole character adds** is itself, behind what is in progress. -/
theorem length_scan_encodeChar {state : Option Partial} (h : ∀ p ∈ state, p.IsOpen) (c : Char)
    (r : List UInt8) :
    (scan state (encodeChar c ++ r)).length = pending state + 1 + (scan none r).length := by
  cases state with
  | none =>
    rw [scan_encodeChar, List.length_cons, pending]
    omega
  | some p =>
    obtain ⟨b, t, hb⟩ := List.exists_cons_of_ne_nil (encodeChar_ne_nil c)
    have hopen := h p rfl
    have hbreak : ¬ (p.low ≤ b.toNat ∧ b.toNat ≤ p.high) := by
      rintro ⟨hlow, hhigh⟩
      have := toNat_of_encodeChar_eq_cons hb
      have := hopen.1
      have := hopen.2
      omega
    rw [hb, List.cons_append, scan_some_cons hbreak, ← List.cons_append, ← hb, scan_encodeChar,
      List.length_cons, List.length_cons, pending]
    omega

end Utf8

/-! ### Keys and values -/

namespace Form

/-- The bytes of a written key or value, with a space for each `+`. -/
def spacedBytes (s : List Char) : List UInt8 :=
  (Utf8.encode s).map spaced

theorem spacedBytes_cons (c : Char) (s : List Char) :
    spacedBytes (c :: s) = (Utf8.encodeChar c).map spaced ++ spacedBytes s := by
  rw [spacedBytes, Utf8.encode, List.flatMap_cons, List.map_append]
  rfl

/-- What a `+` is read as, and any other character outside of triplets. -/
def spacedChar (c : Char) : Char :=
  if c = '+' then ' ' else c

/-- A character is read as itself or as a space. -/
theorem map_spaced_encodeChar (c : Char) :
    (Utf8.encodeChar c).map spaced = Utf8.encodeChar (spacedChar c) := by
  by_cases hplus : c = '+'
  · rw [hplus]
    rfl
  · refine (List.map_congr_left fun b hb ↦ ?_).trans
      ((List.map_id _).trans (congrArg _ (if_neg hplus).symm))
    rw [spaced, if_neg, id]
    rintro rfl
    have hnat : c.toNat = ('+' : Char).toNat := Utf8.toNat_of_mem_encodeChar hb (by decide)
    exact hplus (Char.ext (UInt32.toNat_inj.1 hnat))

theorem spacedChar_eq_mark_iff {c : Char} : spacedChar c = '%' ↔ c = '%' := by
  unfold spacedChar
  split
  · next hplus =>
    rw [hplus]
    decide
  · rfl

/-- A digit is read from the character that it is. -/
theorem exists_of_spacedBytes_eq_cons {s : List Char} {x : UInt8} {r : List UInt8}
    (h : spacedBytes s = x :: r) (hx : Percent.digit? x ≠ none) :
    ∃ c t, s = c :: t ∧ r = spacedBytes t := by
  rcases s with - | ⟨c, t⟩
  · cases h
  refine ⟨c, t, rfl, ?_⟩
  rw [spacedBytes_cons] at h
  obtain ⟨b, more, hb⟩ := List.exists_cons_of_ne_nil (Utf8.encodeChar_ne_nil c)
  rw [hb, List.map_cons, List.cons_append] at h
  obtain ⟨rfl, rfl⟩ := List.cons.inj h
  have hall : ∀ n < 256, Percent.digit? (spaced n.toUInt8) ≠ none → n.toUInt8.toNat < 0x80 := by
    decide +kernel
  have hascii := forall_byte
    (P := fun b ↦ Percent.digit? (spaced b) ≠ none → b.toNat < 0x80) hall b hx
  -- the character of an ASCII byte has no other byte
  have hc : c.toNat = b.toNat := Utf8.toNat_of_mem_encodeChar (hb ▸ List.mem_cons_self) hascii
  rw [Utf8.encodeChar, if_pos (hc ▸ hascii)] at hb
  rw [← (List.cons.inj hb).2, List.map_nil, List.nil_append]

/-- A mark makes one byte with the two characters behind it, or it stays. -/
theorem decode_mark_cases (s : List Char) :
    (∃ d e t z, s = d :: e :: t ∧
      Percent.decode (Percent.mark :: spacedBytes s) = z :: Percent.decode (spacedBytes t)) ∨
      Percent.decode (Percent.mark :: spacedBytes s) =
        Percent.mark :: Percent.decode (spacedBytes s) := by
  by_cases htriplet : ∃ x y z r, spacedBytes s = x :: y :: r ∧ Percent.triplet? x y = some z
  · obtain ⟨x, y, z, r, hs, hz⟩ := htriplet
    obtain ⟨hx, hy⟩ := Percent.digit?_ne_none hz
    obtain ⟨d, t, rfl, ht⟩ := exists_of_spacedBytes_eq_cons hs hx
    obtain ⟨e, t, rfl, rfl⟩ := exists_of_spacedBytes_eq_cons ht.symm hy
    exact .inl ⟨d, e, t, z, rfl, by rw [hs, Percent.decode_mark hz]⟩
  · exact .inr <| Percent.decode_mark_of_forall fun x y r hs ↦
      Option.eq_none_iff_forall_ne_some.2 fun z hz ↦ htriplet ⟨x, y, z, r, hs, hz⟩

/-- What is read from a key or a value is not longer than it, but for a character in progress. -/
theorem length_scan_decode_le (s : List Char) {state : Option Utf8.Partial}
    (h : ∀ p ∈ state, Utf8.Partial.IsOpen p) :
    (Utf8.scan state (Percent.decode (spacedBytes s))).length ≤ s.length + Utf8.pending state := by
  have hnone : ∀ p ∈ (none : Option Utf8.Partial), p.IsOpen := by simp
  -- a triplet takes three characters at once, so the induction is on their number
  induction hlength : s.length using Nat.strongRecOn generalizing s state with
  | ind length ih =>
    rcases s with - | ⟨c, s⟩
    · cases state <;> exact Nat.le_of_eq (by subst hlength; rfl)
    rw [List.length_cons] at hlength
    have hrest := ih s.length (by omega) s hnone rfl
    rw [Utf8.pending] at hrest
    by_cases hc : c = '%'
    · have hbytes : spacedBytes (c :: s) = Percent.mark :: spacedBytes s := by
        rw [spacedBytes_cons, hc]
        rfl
      rw [hbytes]
      rcases decode_mark_cases s with ⟨d, e, t, z, rfl, hdecode⟩ | hdecode
      · obtain ⟨out, next, hnext, hout, hscan⟩ := Utf8.exists_scan_cons h z
        rw [List.length_cons, List.length_cons] at hlength
        have htail := ih t.length (by omega) t hnext rfl
        rw [hdecode, hscan, List.length_append]
        omega
      · have hmark : Utf8.encodeChar '%' = [Percent.mark] := rfl
        rw [hdecode, ← List.singleton_append, ← hmark, Utf8.length_scan_encodeChar h]
        omega
    · have hmark : Percent.mark ∉ Utf8.encodeChar (spacedChar c) := by
        have hne : '%' ≠ spacedChar c := fun heq ↦ hc (spacedChar_eq_mark_iff.1 heq.symm)
        have := Percent.mark_notMem_encode (s := [spacedChar c]) (by simpa using hne)
        rwa [Utf8.encode, List.flatMap_singleton] at this
      rw [spacedBytes_cons, map_spaced_encodeChar, Percent.decode_append_of_notMem hmark,
        Utf8.length_scan_encodeChar h]
      omega

/-- **A key or a value is not longer than its written form.** -/
theorem length_decode_le (s : List Char) : (decode s).length ≤ s.length := by
  have hnone : ∀ p ∈ (none : Option Utf8.Partial), p.IsOpen := by simp
  have := length_scan_decode_le s hnone
  rwa [decode, Utf8.decodeLossy, List.length_map]

theorem length_le_of_mem_decodePairs {query : List Char} {pair : List Char × List Char}
    (h : pair ∈ decodePairs query) : pair.2.length ≤ query.length := by
  obtain ⟨piece, hpiece, rfl⟩ := List.mem_map.1 h
  have hpiece' : piece.length ≤ query.length :=
    (sublist_of_mem_pieces (List.mem_filter.1 hpiece).1).length_le
  rw [decodePair]
  split
  · next key value hsplit =>
    refine (length_decode_le value).trans (Nat.le_trans ?_ hpiece')
    rw [eq_of_splitFirst? hsplit, List.length_append, List.length_cons]
    omega
  · exact Nat.zero_le _

end Form

end Unscramble.Text

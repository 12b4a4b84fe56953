import Unscramble.Proofs.Text.Percent
import Unscramble.Url.Escape

/-!
# Escaped texts

Escaping leaves printable ASCII characters only, none of which is one that the part of the URL
excludes. Such a text is not changed by escaping it again, and no delimiter that is excluded can
turn up in it.

## Main definitions

* `IsEscaped`: a text of printable characters that are not excluded.

## Main statements

* `isEscaped_escape`: what escaping gives.
* `escape_of_isEscaped`: an escaped text is not changed.
* `exists_triplet_of_not_isEscaped`: a text that is changed has a triplet afterwards.
-/

namespace Unscramble.Url.Escape

open Unscramble.Text

/-- A printable character that is not excluded. -/
def isPlainChar (excluded : List Char) (c : Char) : Bool :=
  (' ' ≤ c && c ≤ '~') && !excluded.contains c

/-- A text of printable characters that are not excluded. -/
def IsEscaped (excluded s : List Char) : Prop :=
  ∀ c ∈ s, isPlainChar excluded c = true

instance (excluded s : List Char) : Decidable (IsEscaped excluded s) :=
  List.decidableBAll _ s

section

variable {excluded s t : List Char} {c : Char}

theorem toNat_bounds_of_isPlainChar (h : isPlainChar excluded c = true) :
    0x20 ≤ c.toNat ∧ c.toNat ≤ 0x7E := by
  simp only [isPlainChar, Bool.and_eq_true, decide_eq_true_iff] at h
  exact ⟨h.1.1, h.1.2⟩

theorem ne_of_isPlainChar (h : isPlainChar excluded c = true) {d : Char} (hd : d ∈ excluded) :
    c ≠ d := by
  rintro rfl
  simp [isPlainChar, hd] at h

theorem lt_of_isPlainChar (h : isPlainChar excluded c = true) (hspace : ' ' ∈ excluded) :
    ' ' < c := by
  have hle : ' ' ≤ c := (toNat_bounds_of_isPlainChar h).1
  exact Char.not_le.1 fun hge ↦ ne_of_isPlainChar h hspace (Char.le_antisymm hge hle)

/-- Excluding more characters leaves fewer plain. -/
theorem isPlainChar_mono {fewer : List Char} (hsubset : fewer ⊆ excluded)
    (h : isPlainChar excluded c = true) : isPlainChar fewer c = true := by
  simp only [isPlainChar, Bool.and_eq_true, Bool.not_eq_true', List.contains_eq_mem,
    decide_eq_false_iff_not] at h ⊢
  exact ⟨h.1, fun hm ↦ h.2 (hsubset hm)⟩

theorem IsEscaped.mono {fewer : List Char} (hsubset : fewer ⊆ excluded)
    (h : IsEscaped excluded s) : IsEscaped fewer s :=
  fun c hc ↦ isPlainChar_mono hsubset (h c hc)

theorem IsEscaped.notMem (h : IsEscaped excluded s) {d : Char} (hd : d ∈ excluded) : d ∉ s :=
  fun hm ↦ ne_of_isPlainChar (h d hm) hd rfl

theorem isEscaped_nil (excluded : List Char) : IsEscaped excluded [] :=
  fun _ hc ↦ absurd hc List.not_mem_nil

theorem IsEscaped.append (hs : IsEscaped excluded s) (ht : IsEscaped excluded t) :
    IsEscaped excluded (s ++ t) :=
  List.forall_mem_append.2 ⟨hs, ht⟩

/-- The byte of a printable character is plain where the character is. -/
theorem isPlain_toUInt8 (h : c.toNat < 0x80) :
    isPlain excluded c.toNat.toUInt8 = isPlainChar excluded c := by
  have hbyte : Char.ofNat c.toNat.toUInt8.toNat = c := by
    rw [Utf8.toNat_toUInt8 (h.trans (by decide)), Char.ofNat_toNat]
  rw [isPlain, hbyte, isPlainChar]

/-- **An escaped text is not changed** by escaping it. -/
theorem escape_of_isEscaped (h : IsEscaped excluded s) : escape excluded s = s := by
  have hascii : ∀ c ∈ s, c.toNat < 0x80 := fun c hc ↦
    (toNat_bounds_of_isPlainChar (h c hc)).2.trans_lt (by decide)
  have hbytes : ∀ c ∈ s, (if isPlain excluded c.toNat.toUInt8 then
      [Char.ofNat c.toNat.toUInt8.toNat] else Percent.triplet c.toNat.toUInt8) = [c] := by
    intro c hc
    rw [isPlain_toUInt8 (hascii c hc), h c hc, if_pos rfl,
      Utf8.toNat_toUInt8 ((hascii c hc).trans (by decide)), Char.ofNat_toNat]
  rw [escape, Percent.encode, Percent.encodeBytes, Utf8.encode_of_ascii hascii, List.flatMap_map,
    List.flatMap_congr hbytes, List.flatMap_singleton']

/-- The characters of a triplet. -/
def tripletChars : List Char :=
  "%0123456789ABCDEF".toList

theorem mem_tripletChars {b : UInt8} (hc : c ∈ Percent.triplet b) : c ∈ tripletChars := by
  have hall : ∀ n < 256, (Percent.triplet n.toUInt8).all tripletChars.contains = true := by
    decide +kernel
  have := List.all_eq_true.1 (forall_byte
    (P := fun b ↦ (Percent.triplet b).all tripletChars.contains = true) hall b) c hc
  exact List.contains_iff_mem.1 this

/-- A byte that is written as itself is that of a character of the text. -/
theorem mem_of_isPlain {b : UInt8} (hb : b ∈ Utf8.encode s) (hplain : isPlain excluded b = true) :
    Char.ofNat b.toNat ∈ s := by
  obtain ⟨c, hc, hb⟩ := List.mem_flatMap.1 hb
  have hbounds := toNat_bounds_of_isPlainChar hplain
  rw [Utf8.toNat_ofNat (.inl (b.toNat_lt.trans (by decide)))] at hbounds
  rw [← Utf8.toNat_of_mem_encodeChar hb (hbounds.2.trans_lt (by decide)), Char.ofNat_toNat]
  exact hc

/-- The characters of an escaped text are its own and those of triplets. -/
theorem mem_of_mem_escape (hc : c ∈ escape excluded s) : c ∈ s ∨ c ∈ tripletChars := by
  obtain ⟨b, hb, hc⟩ := List.mem_flatMap.1 hc
  split at hc
  · next hplain =>
    rw [List.mem_singleton.1 hc]
    exact .inl (mem_of_isPlain hb hplain)
  · exact .inr (mem_tripletChars hc)

/-- **Escaping leaves only printable characters that are not excluded**, as long as triplets can be
written. -/
theorem isEscaped_escape (h : IsEscaped excluded tripletChars) (s : List Char) :
    IsEscaped excluded (escape excluded s) := by
  intro c hc
  obtain ⟨b, -, hb⟩ := List.mem_flatMap.1 hc
  split at hb
  · next hplain =>
    rw [List.mem_singleton.1 hb]
    exact hplain
  · exact h c (mem_tripletChars hb)

/-- **A text that is changed has a triplet afterwards**, of a byte that is not plain. -/
theorem exists_triplet_of_not_isEscaped (h : ¬ IsEscaped excluded s) :
    ∃ before b behind, isPlain excluded b = false ∧
      escape excluded s = before ++ (Percent.triplet b ++ behind) := by
  obtain ⟨c, hc, hplain⟩ : ∃ c ∈ s, isPlainChar excluded c ≠ true := by
    simpa [IsEscaped] using h
  obtain ⟨b, r, hb⟩ := List.exists_cons_of_ne_nil (Utf8.encodeChar_ne_nil c)
  have hbyte : isPlain excluded b = false := by
    rw [Bool.eq_false_iff]
    intro hb'
    have hmem : Char.ofNat b.toNat ∈ [c] := mem_of_isPlain
      (List.mem_flatMap.2 ⟨c, List.mem_singleton_self c, hb ▸ List.mem_cons_self⟩) hb'
    rw [← List.mem_singleton.1 hmem] at hplain
    exact hplain hb'
  have hmem : b ∈ Utf8.encode s := List.mem_flatMap.2 ⟨c, hc, hb ▸ List.mem_cons_self⟩
  obtain ⟨before, behind, hsplit⟩ := List.append_of_mem hmem
  rw [escape, Percent.encode, Percent.encodeBytes, hsplit, List.flatMap_append, List.flatMap_cons,
    hbyte, if_neg Bool.false_ne_true]
  exact ⟨_, b, _, hbyte, rfl⟩

end

end Unscramble.Url.Escape

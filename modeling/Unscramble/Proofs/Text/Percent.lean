import Unscramble.Proofs.Text.Utf8
import Unscramble.Text.Percent

/-!
# Triplets are read back

A byte is written in ASCII, as itself or as a triplet, and what is written is bytes again when it is
read. So the bytes of a text come back one by one, each from the bytes of its written form, whatever
follows them. The only byte that must not be written as itself is the mark of a triplet.

Facts about single bytes and ASCII characters are checked for all of them.

## Main definitions

* `Percent.IsWritten`: bytes that are read as one given byte.

## Main statements

* `Utf8.encode_of_ascii`: the bytes of an ASCII text are its code points.
* `Percent.decode_append`: a written byte is read back, whatever follows it.
-/

namespace Unscramble.Text

/-! ### Bytes and ASCII characters -/

theorem forall_byte {P : UInt8 → Prop} (h : ∀ n < 256, P n.toUInt8) (b : UInt8) : P b := by
  have := h b.toNat b.toNat_lt
  rwa [Nat.toUInt8, UInt8.ofNat_toNat] at this

theorem forall_ascii {P : Char → Prop} (h : ∀ n < 0x80, P (Char.ofNat n)) {c : Char}
    (hc : c.toNat < 0x80) : P c := by
  have := h c.toNat hc
  rwa [Char.ofNat_toNat] at this

/-- A character is in ASCII if it is in lower case. -/
theorem toNat_lt_of_toLower {c : Char} (h : c.toLower.toNat < 0x80) : c.toNat < 0x80 := by
  unfold Char.toLower at h
  split at h
  · next hupper => exact lt_of_le_of_lt hupper.2 (by decide)
  · exact h

/-- What each ASCII character has is seen from what a character is in lower case. -/
theorem forall_of_toLower {P : Char → Prop} (h : ∀ n < 0x80, P (Char.ofNat n)) {c : Char}
    (hc : c.toLower.toNat < 0x80) : P c :=
  forall_ascii h (toNat_lt_of_toLower hc)

namespace Utf8

/-- The bytes of an ASCII text are its code points. -/
theorem encode_of_ascii {s : List Char} (h : ∀ c ∈ s, c.toNat < 0x80) :
    encode s = s.map (·.toNat.toUInt8) := by
  induction s with
  | nil => rfl
  | cons c s ih =>
    have hc : encodeChar c = [c.toNat.toUInt8] := by
      rw [encodeChar, if_pos (h c List.mem_cons_self)]
    rw [encode, List.flatMap_cons, hc]
    exact congrArg _ (ih fun x hx ↦ h x (List.mem_cons_of_mem c hx))

end Utf8

namespace Percent

/-! ### Reading one written byte -/

/-- Bytes that are read as the byte `b`: itself or a triplet. -/
def IsWritten (b : UInt8) : List UInt8 → Bool
  | [x] => x == b && x != mark
  | [m, x, y] => m == mark && triplet? x y == some b
  | _ => false

theorem decode_cons {b : UInt8} (h : b ≠ mark) (r : List UInt8) :
    decode (b :: r) = b :: decode r := by
  rcases r with - | ⟨c, - | ⟨d, r⟩⟩
  · rfl
  · rfl
  · rw [decode, if_neg h]

theorem decode_mark {b x y : UInt8} (h : triplet? x y = some b) (r : List UInt8) :
    decode (mark :: x :: y :: r) = b :: decode r := by
  rw [decode, if_pos rfl, h]

theorem digit?_ne_none {x y z : UInt8} (h : triplet? x y = some z) :
    digit? x ≠ none ∧ digit? y ≠ none := by
  unfold triplet? at h
  split at h
  · next hx hy =>
    rw [hx, hy]
    exact ⟨Option.some_ne_none _, Option.some_ne_none _⟩
  · cases h

/-- A mark that is not the first byte of a triplet stays. -/
theorem decode_mark_of_forall {s : List UInt8}
    (h : ∀ x y r, s = x :: y :: r → triplet? x y = none) :
    decode (mark :: s) = mark :: decode s := by
  rcases s with - | ⟨x, - | ⟨y, r⟩⟩
  · rfl
  · rfl
  · rw [decode, if_pos rfl, h x y r rfl]

/-- Bytes without the mark of a triplet are read as themselves, whatever follows them. -/
theorem decode_append_of_notMem {bytes : List UInt8} (h : mark ∉ bytes) (r : List UInt8) :
    decode (bytes ++ r) = bytes ++ decode r := by
  induction bytes with
  | nil => rfl
  | cons b bytes ih =>
    rw [List.mem_cons, not_or] at h
    rw [List.cons_append, decode_cons (Ne.symm h.1), ih h.2, List.cons_append]

theorem decode_of_notMem {bytes : List UInt8} (h : mark ∉ bytes) : decode bytes = bytes := by
  have hnil : decode [] = [] := rfl
  have := decode_append_of_notMem h []
  rwa [hnil, List.append_nil] at this

/-- The mark is an ASCII byte, so only its own character has it. -/
theorem mark_notMem_encode {s : List Char} (h : '%' ∉ s) : mark ∉ Utf8.encode s := by
  intro hm
  obtain ⟨c, hc, hb⟩ := List.mem_flatMap.1 hm
  have hnat : c.toNat = ('%' : Char).toNat := Utf8.toNat_of_mem_encodeChar hb (by decide)
  obtain rfl : c = '%' := Char.ext (UInt32.toNat_inj.1 hnat)
  exact h hc

/-- **A written byte is read back**, whatever follows it. -/
theorem decode_append {b : UInt8} {w : List UInt8} (h : IsWritten b w = true) (r : List UInt8) :
    decode (w ++ r) = b :: decode r := by
  match w, h with
  | [x], h =>
    simp only [IsWritten, Bool.and_eq_true, beq_iff_eq, bne_iff_ne] at h
    obtain ⟨rfl, hx⟩ := h
    exact decode_cons hx r
  | [m, x, y], h =>
    simp only [IsWritten, Bool.and_eq_true, beq_iff_eq] at h
    obtain ⟨rfl, hxy⟩ := h
    exact decode_mark hxy r

/-- Written bytes in a row are read back. -/
theorem decode_flatMap {w : UInt8 → List UInt8} (h : ∀ b, IsWritten b (w b) = true)
    (bytes : List UInt8) : decode (bytes.flatMap w) = bytes := by
  induction bytes with
  | nil => rfl
  | cons b bytes ih => rw [List.flatMap_cons, decode_append (h b), ih]

end Percent

end Unscramble.Text

import Unscramble.Proofs.Text.Form
import Unscramble.Proofs.Url.Escape

/-!
# The pairs of an escaped query

Escaping a query does not change the pairs that it is read as. A byte that is escaped is neither the
mark of a triplet nor a digit of one, so a triplet is read from the escaped query exactly where it
is read from the query, and the triplets that escaping adds are read as the bytes they were written
for. The characters that divide pairs are not escaped either.

## Main definitions

* `Escape.formChars`: the characters that mean something in a form.

## Main statements

* `Percent.decode_flatMap_eq_decode_map`: bytes some of which are written as triplets.
* `Escape.decode_escape`: a key or a value.
* `Escape.decodePairs_escape`: the pairs of a query.
-/

namespace Unscramble

open Unscramble.Text

/-! ### Bytes -/

namespace Text.Percent

theorem digit?_mark : digit? mark = none := by decide

/-- A triplet of the byte `b`, which is itself no part of one. -/
structure IsTriplet (b : UInt8) (w : List UInt8) : Prop where
  isWritten : IsWritten b w = true
  head?_eq : w.head? = some mark
  ne_mark : b ≠ mark
  digit?_eq : digit? b = none

section

variable {w : UInt8 → List UInt8} {f : UInt8 → UInt8}

/-- A digit that is written first is the first byte. -/
theorem exists_of_flatMap_eq_cons (h : ∀ b, w b = [f b] ∨ (IsTriplet b (w b) ∧ f b = b))
    {bytes r : List UInt8} {x : UInt8} (hx : bytes.flatMap w = x :: r) (hdigit : digit? x ≠ none) :
    ∃ b rest, bytes = b :: rest ∧ x = f b ∧ r = rest.flatMap w := by
  rcases bytes with - | ⟨b, rest⟩
  · cases hx
  rw [List.flatMap_cons] at hx
  rcases h b with hb | ⟨hb, -⟩
  · rw [hb, List.singleton_append, List.cons.injEq] at hx
    exact ⟨b, rest, rfl, hx.1.symm, hx.2.symm⟩
  · obtain ⟨t, ht⟩ := List.head?_eq_some_iff.1 hb.head?_eq
    rw [ht, List.cons_append, List.cons.injEq] at hx
    exact absurd (hx.1 ▸ digit?_mark) hdigit

/-- A byte that is a digit is not written as a triplet. -/
theorem eq_singleton_of_digit? (h : ∀ b, w b = [f b] ∨ (IsTriplet b (w b) ∧ f b = b)) {b : UInt8}
    (hb : digit? (f b) ≠ none) : w b = [f b] := by
  refine (h b).resolve_right fun ⟨ht, hf⟩ ↦ hb ?_
  rw [hf, ht.digit?_eq]

/-- A mark makes one byte with the two bytes behind it, whether they are written or not, or it stays
in both. -/
theorem decode_mark_flatMap_cases (h : ∀ b, w b = [f b] ∨ (IsTriplet b (w b) ∧ f b = b))
    (bytes : List UInt8) :
    (∃ x y z rest, bytes = x :: y :: rest ∧
      decode (mark :: bytes.flatMap w) = z :: decode (rest.flatMap w) ∧
        decode (mark :: bytes.map f) = z :: decode (rest.map f)) ∨
      (decode (mark :: bytes.flatMap w) = mark :: decode (bytes.flatMap w) ∧
        decode (mark :: bytes.map f) = mark :: decode (bytes.map f)) := by
  by_cases htriplet : ∃ x y z r, bytes.flatMap w = x :: y :: r ∧ triplet? x y = some z
  · obtain ⟨x, y, z, r, hbytes, hz⟩ := htriplet
    obtain ⟨hx, hy⟩ := digit?_ne_none hz
    obtain ⟨x, tail, rfl, rfl, htail⟩ := exists_of_flatMap_eq_cons h hbytes hx
    obtain ⟨y, rest, rfl, rfl, rfl⟩ := exists_of_flatMap_eq_cons h htail.symm hy
    exact .inl ⟨x, y, z, rest, rfl, by rw [hbytes, decode_mark hz], decode_mark hz _⟩
  · refine .inr ⟨decode_mark_of_forall fun x y r hbytes ↦ ?_,
      decode_mark_of_forall fun x y r hbytes ↦ ?_⟩
    · exact Option.eq_none_iff_forall_ne_some.2 fun z hz ↦ htriplet ⟨x, y, z, r, hbytes, hz⟩
    · -- a triplet of the bytes would be written as itself
      refine Option.eq_none_iff_forall_ne_some.2 fun z hz ↦ htriplet ?_
      obtain ⟨x, tail, rfl, rfl, htail⟩ := List.map_eq_cons_iff.1 hbytes
      obtain ⟨y, rest, rfl, rfl, -⟩ := List.map_eq_cons_iff.1 htail
      obtain ⟨hx, hy⟩ := digit?_ne_none hz
      refine ⟨f x, f y, z, rest.flatMap w, ?_, hz⟩
      rw [List.flatMap_cons, List.flatMap_cons, eq_singleton_of_digit? h hx,
        eq_singleton_of_digit? h hy, List.singleton_append, List.singleton_append]

/-- **Bytes are read the same when some of them are written as triplets**, as long as these are no
parts of triplets themselves. The other bytes may be replaced, as is a `+` by a space. -/
theorem decode_flatMap_eq_decode_map (h : ∀ b, w b = [f b] ∨ (IsTriplet b (w b) ∧ f b = b))
    (bytes : List UInt8) : decode (bytes.flatMap w) = decode (bytes.map f) := by
  -- a mark takes the two bytes behind it along, so the induction is on the number of bytes
  induction hlength : bytes.length using Nat.strongRecOn generalizing bytes with
  | ind length ih =>
    rcases bytes with - | ⟨b, bytes⟩
    · rfl
    rw [List.length_cons] at hlength
    have hrest := ih bytes.length (by omega) bytes rfl
    rw [List.flatMap_cons, List.map_cons]
    rcases h b with hb | ⟨hb, hf⟩
    · rw [hb, List.singleton_append]
      by_cases hmark : f b = mark
      · rw [hmark]
        rcases decode_mark_flatMap_cases h bytes with ⟨x, y, z, rest, rfl, hwritten, hraw⟩ | hstays
        · rw [List.length_cons, List.length_cons] at hlength
          rw [hwritten, hraw, ih rest.length (by omega) rest rfl]
        · rw [hstays.1, hstays.2, hrest]
      · rw [decode_cons hmark, decode_cons hmark, hrest]
    · rw [decode_append hb.isWritten, hf, decode_cons hb.ne_mark, hrest]

end

end Text.Percent

/-! ### Texts -/

namespace Url.Escape

/-- The characters that mean something in a form. -/
def formChars : List Char :=
  "%+&=0123456789ABCDEFabcdef".toList

variable {excluded : List Char}

theorem escape_append (s t : List Char) :
    escape excluded (s ++ t) = escape excluded s ++ escape excluded t := by
  simp [escape, Percent.encode, Percent.encodeBytes, Utf8.encode, List.flatMap_append]

theorem escape_append_cons {c : Char} (hc : isPlainChar excluded c = true) (s t : List Char) :
    escape excluded (s ++ c :: t) = escape excluded s ++ c :: escape excluded t := by
  have hsingle : escape excluded [c] = [c] :=
    escape_of_isEscaped fun d hd ↦ List.mem_singleton.1 hd ▸ hc
  rw [← List.singleton_append, escape_append, escape_append, hsingle, List.singleton_append]

theorem notMem_escape {c : Char} {s : List Char} (hs : c ∉ s) (hc : c ∉ tripletChars) :
    c ∉ escape excluded s :=
  fun hm ↦ (mem_of_mem_escape hm).elim hs hc

/-- Nothing is escaped to nothing. -/
theorem escape_eq_nil_iff {s : List Char} : escape excluded s = [] ↔ s = [] := by
  refine ⟨fun h ↦ ?_, by rintro rfl; rfl⟩
  rcases s with - | ⟨c, s⟩
  · rfl
  obtain ⟨b, r, hb⟩ := List.exists_cons_of_ne_nil (Utf8.encodeChar_ne_nil c)
  rw [escape, Percent.encode, Percent.encodeBytes, Utf8.encode, List.flatMap_cons, hb,
    List.cons_append, List.flatMap_cons, List.append_eq_nil_iff] at h
  revert h
  cases isPlain excluded b <;> simp [Percent.triplet]

/-- A byte is written as itself, or it is no part of a triplet and written as one. -/
theorem eq_singleton_or_isTriplet (h : IsEscaped excluded formChars) (b : UInt8) :
    (Utf8.encode (if isPlain excluded b then [Char.ofNat b.toNat] else Percent.triplet b)).map
        Form.spaced = [Form.spaced b] ∨
      (Percent.IsTriplet b ((Utf8.encode (if isPlain excluded b then [Char.ofNat b.toNat]
        else Percent.triplet b)).map Form.spaced) ∧ Form.spaced b = b) := by
  have hbytes : ∀ n < 256, (n < 0x80 → (Utf8.encode [Char.ofNat n]).map Form.spaced =
      [Form.spaced n.toUInt8]) ∧ (n < 0x80 ∧ Char.ofNat n ∈ formChars ∨
        (Percent.IsWritten n.toUInt8 ((Utf8.encode (Percent.triplet n.toUInt8)).map Form.spaced) =
          true ∧ ((Utf8.encode (Percent.triplet n.toUInt8)).map Form.spaced).head? =
            some Percent.mark ∧ n.toUInt8 ≠ Percent.mark ∧ Percent.digit? n.toUInt8 = none ∧
              Form.spaced n.toUInt8 = n.toUInt8)) := by
    decide +kernel
  have hb := hbytes b.toNat b.toNat_lt
  rw [Nat.toUInt8, UInt8.ofNat_toNat] at hb
  split
  · next hplain =>
    refine .inl (hb.1 ?_)
    have hbounds := toNat_bounds_of_isPlainChar hplain
    rw [Utf8.toNat_ofNat (.inl (b.toNat_lt.trans (by decide)))] at hbounds
    exact hbounds.2.trans_lt (by decide)
  · next hplain =>
    rcases hb.2 with ⟨-, hm⟩ | ⟨hwritten, hhead, hmark, hdigit, hspaced⟩
    · exact absurd (h _ hm) hplain
    · exact .inr ⟨⟨hwritten, hhead, hmark, hdigit⟩, hspaced⟩

/-- **An escaped key or value is read as the same text.** -/
theorem decode_escape (h : IsEscaped excluded formChars) (s : List Char) :
    Form.decode (escape excluded s) = Form.decode s := by
  have hbytes : (Utf8.encode (escape excluded s)).map Form.spaced =
      (Utf8.encode s).flatMap fun b ↦ (Utf8.encode (if isPlain excluded b then
        [Char.ofNat b.toNat] else Percent.triplet b)).map Form.spaced := by
    rw [escape, Percent.encode, Percent.encodeBytes, Utf8.encode, List.flatMap_assoc,
      List.map_flatMap]
    rfl
  show Utf8.decodeLossy (Percent.decode ((Utf8.encode (escape excluded s)).map Form.spaced)) = _
  rw [hbytes, Percent.decode_flatMap_eq_decode_map (eq_singleton_or_isTriplet h)]
  rfl

/-- An escaped pair is read as the same pair. -/
theorem decodePair_escape (h : IsEscaped excluded formChars) (s : List Char) :
    Form.decodePair (escape excluded s) = Form.decodePair s := by
  by_cases hs : '=' ∈ s
  · obtain ⟨key, value, rfl, hkey⟩ := List.eq_append_cons_of_mem hs
    rw [escape_append_cons (h '=' (by decide)), Form.decodePair, Form.decodePair,
      splitFirst?_append_cons (notMem_escape hkey (by decide)), splitFirst?_append_cons hkey]
    dsimp only
    rw [decode_escape h, decode_escape h]
  · rw [Form.decodePair, Form.decodePair, splitFirst?_of_notMem (notMem_escape hs (by decide)),
      splitFirst?_of_notMem hs]
    dsimp only
    rw [decode_escape h]

/-- **The pairs of an escaped query** are those of the query. -/
theorem decodePairs_escape (h : IsEscaped excluded formChars) (query : List Char) :
    Form.decodePairs (escape excluded query) = Form.decodePairs query := by
  induction hlength : query.length using Nat.strongRecOn generalizing query with
  | ind length ih =>
    by_cases hquery : '&' ∈ query
    · obtain ⟨s, rest, rfl, hs⟩ := List.eq_append_cons_of_mem hquery
      rw [escape_append_cons (h '&' (by decide)), Form.decodePairs_append_cons,
        Form.decodePairs_append_cons, ih s.length (by simp [← hlength]) s rfl,
        ih rest.length (by simp [← hlength]; omega) rest rfl]
    · rw [Form.decodePairs, Form.decodePairs, pieces_of_notMem (notMem_escape hquery (by decide)),
        pieces_of_notMem hquery]
      by_cases hnil : query = []
      · rw [hnil]
        rfl
      · have hnil' : escape excluded query ≠ [] := fun heq ↦ hnil (escape_eq_nil_iff.1 heq)
        rw [List.filter_cons_of_pos (by simpa using hnil'), List.filter_cons_of_pos
          (by simpa using hnil), List.filter_nil, List.map_singleton,
          List.map_singleton, decodePair_escape h]

end Url.Escape

end Unscramble

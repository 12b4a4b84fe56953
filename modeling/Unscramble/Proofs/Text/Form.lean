import Unscramble.Proofs.Text.Percent
import Unscramble.Proofs.Text.Split
import Unscramble.Text.Form

/-!
# Forms are read back

What is written as a key or a value consists of few ASCII characters, none of which is `&`, `=` or
`?`. So the pairs of a form come apart again where they were joined, and a key from its value; and
each byte of a key or a value is read back from what was written for it, a space from its `+`.

Reading a form never looks beyond a `&`. Two forms joined by one are therefore read as the pairs of
the first and then those of the second, even if the first was not written by `encodePairs`.

## Main definitions

* `isEncoded`: a character of a written key or value.

## Main statements

* `decode_encode`: a key or a value is read back.
* `decodePairs_encodePairs`: the pairs of a form are read back.
* `decodePairs_append_cons`: a `&` divides the pairs of a text.
* `value?_marks_encodePairs`: a value is looked up by its key, behind any number of `?`.
-/

namespace Unscramble.Text.Form

/-! ### Written keys and values -/

/-- A character of a written key or value. -/
def isEncoded (c : Char) : Bool :=
  c.isAlphanum || ['*', '-', '.', '_', '+', '%'].contains c

theorem all_encodeByte (b : UInt8) : (encodeByte b).all isEncoded = true :=
  forall_byte (P := fun b ↦ (encodeByte b).all isEncoded = true) (by decide +kernel) b

/-- What a `+` is read as, and any other byte. -/
def spaced (b : UInt8) : UInt8 :=
  if b = 0x2B then 0x20 else b

theorem isWritten_encodeByte (b : UInt8) :
    Percent.IsWritten b ((Utf8.encode (encodeByte b)).map spaced) = true :=
  forall_byte
    (P := fun b ↦ Percent.IsWritten b ((Utf8.encode (encodeByte b)).map spaced) = true)
    (by decide +kernel) b

theorem isEncoded_of_mem_encode {s : List Char} {c : Char} (h : c ∈ encode s) :
    isEncoded c = true := by
  obtain ⟨b, -, hc⟩ := List.mem_flatMap.1 h
  exact List.all_eq_true.1 (all_encodeByte b) c hc

theorem notMem_encode {c : Char} (hc : isEncoded c = false) (s : List Char) : c ∉ encode s := by
  intro h
  rw [isEncoded_of_mem_encode h] at hc
  cases hc

/-- **A key or a value is read back.** -/
theorem decode_encode (s : List Char) : decode (encode s) = s := by
  have hbytes : (Utf8.encode (encode s)).map spaced =
      (Utf8.encode s).flatMap fun b ↦ (Utf8.encode (encodeByte b)).map spaced := by
    rw [encode, Utf8.encode, List.flatMap_assoc, List.map_flatMap]
    rfl
  show Utf8.decodeLossy (Percent.decode ((Utf8.encode (encode s)).map spaced)) = s
  rw [hbytes, Percent.decode_flatMap isWritten_encodeByte, Utf8.decodeLossy_encode]

/-! ### Written pairs -/

variable (pair : List Char × List Char)

theorem encodePair_ne_nil : encodePair pair ≠ [] := by
  simp [encodePair]

/-- The characters of a written pair. -/
theorem mem_encodePair {c : Char} (h : c ∈ encodePair pair) : isEncoded c = true ∨ c = '=' := by
  rw [encodePair, List.mem_append, List.mem_cons] at h
  rcases h with h | h | h
  · exact .inl (isEncoded_of_mem_encode h)
  · exact .inr h
  · exact .inl (isEncoded_of_mem_encode h)

theorem notMem_encodePair {c : Char} (hc : isEncoded c = false) (hne : c ≠ '=') :
    c ∉ encodePair pair := by
  intro h
  rcases mem_encodePair pair h with h | h
  · rw [h] at hc
    cases hc
  · exact hne h

theorem decodePair_encodePair : decodePair (encodePair pair) = pair := by
  rw [decodePair, encodePair, splitFirst?_append_cons (notMem_encode (by decide) _)]
  show (decode (encode pair.1), decode (encode pair.2)) = pair
  rw [decode_encode, decode_encode]

theorem decodePairs_encodePair : decodePairs (encodePair pair) = [pair] := by
  rw [decodePairs, pieces_of_notMem (notMem_encodePair pair (by decide) (by decide)),
    List.filter_cons_of_pos (by simp [encodePair_ne_nil]), List.filter_nil, List.map_singleton,
    decodePair_encodePair]

/-- **A `&` divides the pairs of a text**, whatever stands on its two sides. -/
theorem decodePairs_append_cons (s t : List Char) :
    decodePairs (s ++ '&' :: t) = decodePairs s ++ decodePairs t := by
  rw [decodePairs, pieces_append_sep, List.filter_append, List.map_append]
  rfl

/-- **The pairs of a form are read back.** -/
theorem decodePairs_encodePairs (pairs : List (List Char × List Char)) :
    decodePairs (encodePairs pairs) = pairs := by
  induction pairs with
  | nil => rfl
  | cons pair pairs ih =>
    cases pairs with
    | nil =>
      rw [encodePairs, List.map_singleton, List.intercalate_singleton, decodePairs_encodePair]
    | cons other pairs =>
      rw [encodePairs, List.map_cons, List.map_cons, List.intercalate_cons_cons,
        List.append_assoc, List.singleton_append, decodePairs_append_cons, decodePairs_encodePair]
      exact congrArg (pair :: ·) ih

/-! ### Values by their keys -/

theorem lookup?_eq_lookup (key : List Char) (pairs : List (List Char × List Char)) :
    lookup? key pairs = pairs.lookup key := by
  induction pairs with
  | nil => rfl
  | cons pair pairs ih =>
    rw [lookup?, List.find?_cons, List.lookup_cons, BEq.comm (a := key)]
    cases pair.1 == key with
    | true => rfl
    | false => exact ih

/-- No `?` begins a written form, so those in front of it are all that is dropped. -/
theorem dropWhile_marks_encodePairs (marks : ℕ) (pairs : List (List Char × List Char)) :
    (List.replicate marks '?' ++ encodePairs pairs).dropWhile (· == '?') = encodePairs pairs := by
  have hmarks : ∀ c ∈ List.replicate marks '?', (c == '?') = true := by
    intro c hc
    rw [List.eq_of_mem_replicate hc]
    rfl
  have hrest : '?' ∉ encodePairs pairs := by
    have hall : ∀ c ∈ encodePairs pairs, c ≠ '?' := by
      refine forall_mem_intercalate (by simp) fun s hs c hc ↦ ?_
      obtain ⟨pair, -, rfl⟩ := List.mem_map.1 hs
      rintro rfl
      exact notMem_encodePair pair (by decide) (by decide) hc
    exact fun h ↦ hall '?' h rfl
  rw [List.dropWhile_append_of_pos hmarks]
  cases hform : encodePairs pairs with
  | nil => rfl
  | cons c s =>
    rw [hform] at hrest
    have hc : c ≠ '?' := fun h ↦ hrest (h ▸ List.mem_cons_self)
    exact List.dropWhile_cons_of_neg (by simpa using hc)

/-- **A value is looked up by its key** in a written form, behind any number of `?`. -/
theorem value?_marks_encodePairs (marks : ℕ) (pairs : List (List Char × List Char))
    (key : List Char) :
    value? (List.replicate marks '?' ++ encodePairs pairs) key = pairs.lookup key := by
  rw [value?, dropWhile_marks_encodePairs, decodePairs_encodePairs, lookup?_eq_lookup]

end Unscramble.Text.Form

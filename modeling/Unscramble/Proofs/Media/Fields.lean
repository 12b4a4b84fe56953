import Unscramble.Proofs.Media.Cipher
import Unscramble.Proofs.Text.Form

/-!
# A cipher is what its form was made of

A form that is written from pairs is read as a cipher by the pairs alone. Only three keys count, and
of each only the first value, so it does not matter in which order they stand, what stands between
them, or how many `?` lead in.

## Main definitions

* `Cipher.ofPairs`: the cipher that a list of pairs holds.
* `Cipher.fields`: the pairs that count.

## Main statements

* `lookup_eq_of_perm`: where no key occurs twice, the order of pairs does not matter.
* `Cipher.read_encodePairs`: reading undoes writing.
-/

namespace Unscramble

open Unscramble.Text

/-! ### Pairs whose keys occur once -/

section Lookup

variable {α β : Type} [BEq α] [LawfulBEq α] {l m : List (α × β)} {key : α} {value : β}

theorem lookup_eq_some_iff_mem (h : (l.map Prod.fst).Nodup) :
    l.lookup key = some value ↔ (key, value) ∈ l := by
  induction l with
  | nil => simp
  | cons pair l ih =>
    obtain ⟨k, v⟩ := pair
    rw [List.map_cons, List.nodup_cons] at h
    rw [List.lookup_cons, List.mem_cons]
    by_cases hk : key = k
    · subst hk
      -- the first pair has the key, so no later one has
      have hlater : (key, value) ∉ l := fun hm ↦ h.1 (List.mem_map.2 ⟨(key, value), hm, rfl⟩)
      simp [hlater, eq_comm]
    · have hne : (key == k) = false := beq_eq_false_iff_ne.2 hk
      simp [hne, hk, ih h.2]

/-- Where no key occurs twice, the order of pairs does not matter. -/
theorem lookup_eq_of_perm (h : (m.map Prod.fst).Nodup) (hperm : l.Perm m) (key : α) :
    l.lookup key = m.lookup key := by
  have hl : (l.map Prod.fst).Nodup := (hperm.map Prod.fst).nodup_iff.2 h
  ext value
  rw [lookup_eq_some_iff_mem hl, lookup_eq_some_iff_mem h, hperm.mem_iff]

/-- Pairs with other keys do not matter. -/
theorem lookup_filter {p : α × β → Bool} (hp : ∀ value, p (key, value) = true) :
    (l.filter p).lookup key = l.lookup key := by
  induction l with
  | nil => rfl
  | cons pair l ih =>
    obtain ⟨k, v⟩ := pair
    by_cases hk : key = k
    · subst hk
      rw [List.filter_cons_of_pos (hp v), List.lookup_cons, List.lookup_cons, BEq.rfl]
    · have hne : (key == k) = false := beq_eq_false_iff_ne.2 hk
      rw [List.lookup_cons, hne, ← ih]
      by_cases hpk : p (k, v) = true
      · rw [List.filter_cons_of_pos hpk, List.lookup_cons, hne]
      · rw [List.filter_cons_of_neg hpk]

end Lookup

namespace Media.Cipher

/-! ### The pairs of a form -/

/-- The cipher that a list of pairs holds: the first value of each key, and `signature` for a query
key that is not named. -/
def ofPairs (pairs : List (List Char × List Char)) : Except Error Cipher :=
  match pairs.lookup ['s'], pairs.lookup "url".toList with
  | none, _ => .error (.missingField "s")
  | some _, none => .error (.missingField "url")
  | some token, some url =>
    .ok ⟨token, ((pairs.lookup "sp".toList).filter fun key ↦ !key.isEmpty).getD "signature".toList,
      url⟩

/-- The keys that a cipher is read from. -/
def fieldKeys : List (List Char) :=
  [['s'], "url".toList, "sp".toList]

/-- The pairs that a cipher is read from. -/
def fields (pairs : List (List Char × List Char)) : List (List Char × List Char) :=
  pairs.filter fun pair ↦ fieldKeys.contains pair.1

theorem lookup_fields {key : List Char} (h : key ∈ fieldKeys)
    (pairs : List (List Char × List Char)) : (fields pairs).lookup key = pairs.lookup key :=
  lookup_filter fun _ ↦ List.contains_iff_mem.2 h

/-- Ciphers are the same if the three keys have the same values. -/
theorem ofPairs_congr {pairs others : List (List Char × List Char)}
    (h : ∀ key ∈ fieldKeys, others.lookup key = pairs.lookup key) :
    ofPairs others = ofPairs pairs := by
  have htoken := h ['s'] (by simp [fieldKeys])
  have hurl := h "url".toList (by simp [fieldKeys])
  have hkey := h "sp".toList (by simp [fieldKeys])
  rw [ofPairs, ofPairs, htoken, hurl, hkey]

/-- A form is read by what its keys are looked up as. -/
theorem read_eq_ofPairs {form : List Char} {pairs : List (List Char × List Char)}
    (h : ∀ key, Form.value? form key = pairs.lookup key) : read form = ofPairs pairs := by
  rw [ofPairs]
  cases hasToken : pairs.lookup ['s'] with
  | none => exact read_of_noToken ((h _).trans hasToken)
  | some token =>
    cases hasUrl : pairs.lookup "url".toList with
    | none => exact read_of_noUrl ((h _).trans hasToken) ((h _).trans hasUrl)
    | some url =>
      rw [read_of_fields ((h _).trans hasToken) ((h _).trans hasUrl), keyOf, h]

/-- **Reading undoes writing.** In a form that was written from pairs, each key has its first value,
and the cipher is the one that the pairs hold; `?` in front, pairs with other keys and the order of
the fields change nothing. -/
theorem read_encodePairs (marks : ℕ) (pairs : List (List Char × List Char)) :
    (∀ key, Form.value? (List.replicate marks '?' ++ Form.encodePairs pairs) key =
        pairs.lookup key) ∧
      read (List.replicate marks '?' ++ Form.encodePairs pairs) = ofPairs pairs ∧
      ∀ (otherMarks : ℕ) (others : List (List Char × List Char)),
        ((fields pairs).map Prod.fst).Nodup → (fields others).Perm (fields pairs) →
          read (List.replicate otherMarks '?' ++ Form.encodePairs others) = ofPairs pairs := by
  have hread (n : ℕ) (l : List (List Char × List Char)) :
      read (List.replicate n '?' ++ Form.encodePairs l) = ofPairs l :=
    read_eq_ofPairs fun key ↦ Form.value?_marks_encodePairs n l key
  refine ⟨fun key ↦ Form.value?_marks_encodePairs marks pairs key, hread marks pairs, ?_⟩
  intro otherMarks others hnodup hperm
  rw [hread]
  refine ofPairs_congr fun key hkey ↦ ?_
  rw [← lookup_fields hkey others, ← lookup_fields hkey pairs]
  exact lookup_eq_of_perm hnodup hperm key

end Media.Cipher

end Unscramble

import Unscramble.Proofs.Json.Written

/-!
# A record is taken out of a written object member by member

No written value has a fault that passing it over could meet (`fault?_draft`). So a record is taken
out of a written object whose keys occur once by one step for each member in the order of the text:
a member that no field has the key of changes nothing, and any other is put into its field
(`Decoder.record_object`). Numbers, elements and optional values are taken out by lemmas of their
own.

## Main definitions

* `Field.take`: a record after one member of an object.

## Main statements

* `Decoder.record_object`: the record of a written object.
* `Decoder.natural_draft`, `Decoder.list_draft`: the number and the list that were written.
-/

namespace Unscramble.Json

/-! ### What is passed over -/

mutual

/-- A written value is passed over without a fault. -/
theorem fault?_draft (v : Value) : v.draft.fault? = none := by
  match v with
  | .null | .bool _ | .number _ | .string _ => rfl
  | .array items => exact fault?_itemsDraft items
  | .object members => exact fault?_membersDraft members

theorem fault?_itemsDraft (vs : List Value) : (itemsDraft vs).fault? = none := by
  match vs with
  | [] => rfl
  | v :: r =>
    rw [itemsDraft, Items.fault?, fault?_draft v, fault?_itemsDraft r]

theorem fault?_membersDraft (ms : List (String × Value)) : (membersDraft ms).fault? = none := by
  match ms with
  | [] => rfl
  | (key, v) :: r =>
    rw [membersDraft, Members.fault?, fault?_draft v, fault?_membersDraft r]

end

variable {α β : Type}

/-! ### Members -/

namespace Field

/-- A record after one member of an object: a member that no field has the key of changes
nothing. -/
def take (fields : List (Field α)) (a : α) (member : String × Value) : Except Fault α :=
  match fields.find? (·.key == member.1) with
  | none => .ok a
  | some field => field.put member.2.draft a

/-- Members whose keys occur once, and were not seen before, are taken one by one. -/
theorem ofMembers_membersDraft (fields : List (Field α)) {ms : List (String × Value)}
    {seen : List String} (hkeys : (ms.map Prod.fst).Nodup) (hseen : ∀ m ∈ ms, m.1 ∉ seen) (a : α) :
    ofMembers fields seen (membersDraft ms) a = ms.foldlM (take fields) a := by
  induction ms generalizing seen a with
  | nil => rfl
  | cons m r ih =>
    obtain ⟨key, v⟩ := m
    rw [List.map_cons, List.nodup_cons] at hkeys
    have hlater (m : String × Value) (hm : m ∈ r) : m.1 ∉ seen := hseen m (.tail _ hm)
    -- no later member has the key of this one
    have hother (m : String × Value) (hm : m ∈ r) : m.1 ∉ key :: seen := by
      rw [List.mem_cons, not_or]
      exact ⟨fun heq ↦ hkeys.1 (List.mem_map.2 ⟨m, hm, heq⟩), hlater m hm⟩
    have hfirst : seen.contains key = false := by simpa using hseen (key, v) (.head _)
    rw [membersDraft, ofMembers, List.foldlM_cons, take]
    simp only [bind, Except.bind, String.ofList_toList]
    cases fields.find? (·.key == key) with
    | none =>
      simp only [fault?_draft]
      exact ih hkeys.2 hlater a
    | some field =>
      simp only [hfirst]
      cases field.put v.draft a with
      | error f => rfl
      | ok b => exact ih hkeys.2 hother b

end Field

namespace Decoder

/-- **A record is taken out of a written object** member by member. -/
theorem record_object (blank : α) (fields : List (Field α)) {ms : List (String × Value)}
    (hkeys : (ms.map Prod.fst).Nodup) :
    record blank fields (Value.object ms).draft = ms.foldlM (Field.take fields) blank :=
  Field.ofMembers_membersDraft fields hkeys (fun _ _ ↦ List.not_mem_nil) blank

/-! ### Values of fields -/

theorem bool_draft (b : Bool) : bool (Value.bool b).draft = .ok b :=
  rfl

theorem text_draft (s : List Char) : text (Value.string s).draft = .ok s :=
  rfl

theorem optional_text_draft (s : List Char) :
    optional text (Value.string s).draft = .ok (some s) :=
  rfl

/-- A number up to the limit is taken out as it was written. -/
theorem natural_draft {limit n : ℕ} (h : n ≤ limit) :
    natural limit (Value.number n).draft = .ok n := by
  show (if Nat.ofDigitChars 10 (Nat.toDigits 10 n) 0 ≤ limit then Except.ok _ else _) = _
  rw [Nat.ofDigitChars_ten_toDigits, if_pos h]

/-- A list is taken out as it was written, if each of its elements is. -/
theorem list_draft {decode : Decoder α} {value : α → Value} {l : List α}
    (h : ∀ a ∈ l, decode (value a).draft = .ok a) :
    list decode (Value.array (l.map value)).draft = .ok l := by
  show items decode (itemsDraft (l.map value)) = .ok l
  induction l with
  | nil => rfl
  | cons a l ih =>
    have hrest := ih fun b hb ↦ h b (.tail _ hb)
    rw [List.map_cons, itemsDraft, items, h a (.head _), hrest]
    rfl

end Decoder

end Unscramble.Json

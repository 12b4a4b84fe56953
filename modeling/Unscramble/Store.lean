/-!
# Stores

A store keeps the last value given for each key, and nothing is lost from it.

## Main statements

* `get?_insert_self`, `get?_insert_of_ne`: a value is found under its own key, and does not touch
  the others.
-/

namespace Unscramble

/-- Values under keys, the last one given first. -/
structure Store (κ α : Type) where
  entries : List (κ × α)

namespace Store

variable {κ α : Type} [BEq κ]

/-- A store with nothing in it. -/
def empty : Store κ α :=
  ⟨[]⟩

/-- Keep a value under a key. -/
def insert (s : Store κ α) (key : κ) (value : α) : Store κ α :=
  ⟨(key, value) :: s.entries.filter fun entry ↦ !(key == entry.1)⟩

/-- The value under a key. -/
def get? (s : Store κ α) (key : κ) : Option α :=
  s.entries.lookup key

@[simp] theorem get?_insert_self [LawfulBEq κ] (s : Store κ α) (key : κ) (value : α) :
    (s.insert key value).get? key = some value := by
  simp [get?, insert]

theorem get?_insert_of_ne [LawfulBEq κ] (s : Store κ α) {key other : κ} (value : α)
    (h : other ≠ key) : (s.insert key value).get? other = s.get? other := by
  obtain ⟨entries⟩ := s
  simp only [get?, insert, List.lookup_cons, beq_eq_false_iff_ne.2 h]
  induction entries with
  | nil => rfl
  | cons entry rest ih =>
    obtain ⟨k, v⟩ := entry
    rw [List.filter_cons]
    by_cases hk : key = k
    · subst hk
      simpa [List.lookup_cons, beq_eq_false_iff_ne.2 h] using ih
    · by_cases ho : other = k
      · subst ho
        simp [hk]
      · simpa [List.lookup_cons, hk, beq_eq_false_iff_ne.2 ho] using ih

end Store

end Unscramble

import Mathlib.Data.List.Forall2

/-!
# Lists read one by one

A list is read item by item, from left to right, and the first item that cannot be read ends the
reading. So the items that are read stand in the places of those that they are read from, and an
error is that of an item in front of which all others can be read.

## Main statements

* `mapM_eq_ok_iff`: a list is read exactly if each item is.
* `mapM_eq_error_iff`: a list is refused exactly for its first item that is.
-/

namespace Unscramble

/-! ### Items in the same places -/

section Places

variable {α β : Type} {r : α → β → Prop} {as : List α} {bs : List β}

theorem exists_of_mem_left (h : List.Forall₂ r as bs) {a : α} (ha : a ∈ as) :
    ∃ b ∈ bs, r a b := by
  induction h with
  | nil => cases ha
  | cons hab _ ih =>
    rcases List.mem_cons.1 ha with rfl | ha
    · exact ⟨_, List.mem_cons_self, hab⟩
    · obtain ⟨b, hb, hr⟩ := ih ha
      exact ⟨b, List.mem_cons_of_mem _ hb, hr⟩

theorem exists_of_mem_right (h : List.Forall₂ r as bs) {b : β} (hb : b ∈ bs) :
    ∃ a ∈ as, r a b :=
  exists_of_mem_left h.flip hb

theorem ne_nil_of_forall₂ (h : List.Forall₂ r as bs) (hne : as ≠ []) : bs ≠ [] := by
  rintro rfl
  exact hne (List.forall₂_nil_right_iff.1 h)

end Places

/-! ### Reading -/

/-- Two stages give a result exactly if each does. -/
theorem bind_eq_ok_iff {ε α β : Type} {x : Except ε α} {f : α → Except ε β} {b : β} :
    (x >>= f) = .ok b ↔ ∃ a, x = .ok a ∧ f a = .ok b := by
  cases x with
  | error e => exact ⟨nofun, by rintro ⟨a, h, -⟩; cases h⟩
  | ok a => exact ⟨fun h ↦ ⟨a, rfl, h⟩, by rintro ⟨a', h, hb⟩; cases h; exact hb⟩

theorem exists_of_bind_eq_ok {ε α β : Type} {x : Except ε α} {f : α → Except ε β} {b : β}
    (h : x.bind f = .ok b) : ∃ a, x = .ok a ∧ f a = .ok b :=
  bind_eq_ok_iff.1 h

variable {α β ε : Type} {f : α → Except ε β} {as : List α}

/-- Items are read one by one if each of them can be. -/
theorem mapM_eq_ok_iff {bs : List β} :
    as.mapM f = .ok bs ↔ List.Forall₂ (fun a b ↦ f a = .ok b) as bs := by
  induction as generalizing bs with
  | nil => exact ⟨fun h ↦ Except.ok.inj h ▸ .nil, fun h ↦ by rcases h; rfl⟩
  | cons a as ih =>
    rw [List.mapM_cons]
    constructor
    · intro h
      rcases ha : f a with e | b
      · rw [ha] at h
        cases h
      rcases has : as.mapM f with e | bs'
      · rw [ha, has] at h
        cases h
      rw [ha, has] at h
      obtain rfl := Except.ok.inj h
      exact .cons ha (ih.1 has)
    · rintro (- | ⟨ha, has⟩)
      rw [ha, ih.2 has]
      rfl

/-- The first item that cannot be read is to blame. -/
theorem mapM_eq_error_iff {e : ε} :
    as.mapM f = .error e ↔ ∃ before a after, as = before ++ a :: after ∧
      (∀ a' ∈ before, ∃ b, f a' = .ok b) ∧ f a = .error e := by
  induction as with
  | nil =>
    refine ⟨nofun, ?_⟩
    rintro ⟨before, a, after, has, -⟩
    exact absurd has.symm (List.append_ne_nil_of_right_ne_nil before (List.cons_ne_nil a after))
  | cons a as ih =>
    rw [List.mapM_cons]
    rcases ha : f a with e' | b
    · show Except.error e' = .error e ↔ _
      constructor
      · intro h
        exact ⟨[], a, as, rfl, nofun, ha.trans (congrArg _ (Except.error.inj h))⟩
      · rintro ⟨_ | ⟨a', before⟩, a'', after, has, hbefore, herror⟩
        · obtain ⟨rfl, -⟩ := List.cons.inj has
          exact congrArg _ (Except.error.inj (ha.symm.trans herror))
        · obtain ⟨rfl, -⟩ := List.cons.inj has
          obtain ⟨b, hb⟩ := hbefore a List.mem_cons_self
          exact absurd (ha.symm.trans hb) nofun
    · -- the error, if there is one, is that of the later items
      have hlater : (as.mapM f >>= fun bs ↦ pure (b :: bs)) = .error e ↔ as.mapM f = .error e := by
        rcases as.mapM f with e' | bs
        · exact ⟨fun h ↦ congrArg _ (Except.error.inj h), fun h ↦ congrArg _ (Except.error.inj h)⟩
        · exact ⟨nofun, nofun⟩
      show (as.mapM f >>= fun bs ↦ pure (b :: bs)) = .error e ↔ _
      rw [hlater, ih]
      constructor
      · rintro ⟨before, a', after, rfl, hbefore, herror⟩
        exact ⟨a :: before, a', after, rfl, List.forall_mem_cons.2 ⟨⟨b, ha⟩, hbefore⟩, herror⟩
      · rintro ⟨_ | ⟨a', before⟩, a'', after, has, hbefore, herror⟩
        · obtain ⟨rfl, -⟩ := List.cons.inj has
          exact absurd (ha.symm.trans herror) nofun
        · obtain ⟨rfl, rfl⟩ := List.cons.inj has
          exact ⟨before, a'', after, rfl, (List.forall_mem_cons.1 hbefore).2, herror⟩

end Unscramble

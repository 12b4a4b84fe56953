import Mathlib.Data.List.Perm.Subperm
import Unscramble.Move

/-!
# What a move does to a token

A move either refuses a token, and then says so with the token's own length, or it drops and
rearranges elements: no element is made up, and none is repeated. Both facts hold for lists over
any type, so a run on the positions `0, 1, …` of a token has them as well.

## Main statements

* `eq_of_apply_bind_eq_error`: what a refusing move reports.
* `subperm_of_apply`: the elements after a move are some of the elements before it.
-/

namespace Unscramble

variable {α : Type}

open List in
/-- Exchanging the head with another element only rearranges. -/
theorem swapFirst_perm (i : ℕ) (t : List α) : (swapFirst i t).Perm t := by
  cases t with
  | nil => exact List.Perm.refl _
  | cons a r =>
    cases i with
    | zero => exact List.Perm.refl _
    | succ j =>
      rw [swapFirst]
      cases hj : r[j]? with
      | none => exact List.Perm.refl _
      | some b =>
        obtain ⟨hlt, hb⟩ := List.getElem?_eq_some_iff.1 hj
        have hr : r = r.take j ++ b :: r.drop (j + 1) := by
          rw [← hb, ← List.drop_eq_getElem_cons hlt, List.take_append_drop]
        have hset : r.set j a = r.take j ++ a :: r.drop (j + 1) :=
          List.set_eq_take_append_cons_drop.trans (if_pos hlt)
        calc b :: r.set j a
            = b :: (r.take j ++ a :: r.drop (j + 1)) := by rw [hset]
          _ ~ b :: a :: (r.take j ++ r.drop (j + 1)) := List.perm_middle.cons b
          _ ~ a :: b :: (r.take j ++ r.drop (j + 1)) := List.Perm.swap _ _ _
          _ ~ a :: (r.take j ++ b :: r.drop (j + 1)) := List.perm_middle.symm.cons a
          _ = a :: r := by rw [← hr]

namespace Move

/-- An exchange can be made on every token with a character in it. -/
theorem apply_swapHead (n : ℕ) {t : List α} (ht : t ≠ []) :
    (swapHead n).apply t = .ok (swapFirst (n % t.length) t) := by
  rw [apply, if_neg (mt List.isEmpty_iff.1 ht)]

/-- A move that refuses a token reports its family, its number and the length of that token. -/
theorem eq_of_apply_bind_eq_error {family : Family} {n : ℕ} {t : List α} {r : OutOfRange}
    (h : (family.bind n).apply t = .error r) : r = ⟨family, n, t.length⟩ := by
  cases family with
  | reverse => simp [Family.bind, apply] at h
  | dropMiddle =>
    simp only [Family.bind, apply] at h
    split at h
    · exact (Except.error.inj h).symm
    · cases h
  | swapHead =>
    simp only [Family.bind, apply] at h
    split at h
    case isTrue ht =>
      rw [List.isEmpty_iff.1 ht]
      exact (Except.error.inj h).symm
    case isFalse => cases h

/-- **The elements after a move** are some of those before it, each at most as often. -/
theorem subperm_of_apply {m : Move} {t u : List α} (h : m.apply t = .ok u) : u.Subperm t := by
  cases m with
  | reverse =>
    obtain rfl : t.reverse = u := Except.ok.inj h
    exact (List.reverse_perm t).subperm
  | dropMiddle n =>
    rw [apply] at h
    split at h
    · cases h
    · obtain rfl : t.take n ++ t.drop (2 * n) = u := Except.ok.inj h
      have hdrop : (t.drop (2 * n)).Sublist (t.drop n) := by
        rw [show t.drop (2 * n) = (t.drop n).drop n by rw [List.drop_drop]; congr 1; omega]
        exact List.drop_sublist n _
      have hsub := (List.Sublist.refl (t.take n)).append hdrop
      rw [List.take_append_drop] at hsub
      exact hsub.subperm
  | swapHead n =>
    rw [apply] at h
    split at h
    · cases h
    · obtain rfl : swapFirst (n % t.length) t = u := Except.ok.inj h
      exact (swapFirst_perm _ t).subperm

end Move

end Unscramble

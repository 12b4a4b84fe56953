import Mathlib.Algebra.Group.Nat.Defs
import Mathlib.Data.Nat.Log
import Unscramble.Text.Normal
import Unscramble.Text.Ranges

/-!
# Searching a table by bisection

What a search in a table finds is a row of the table, so a property of all rows is one of what is
found. In a sorted table the search finds the last row whose key is small enough, if there is one.

## Main statements

* `Ranges.has_eq_false`: a character that lies in no range is not found.
* `Normal.of_lastRow`: a row that is found stands in the table.
* `Normal.lastRow_eq_some_of_mem`: in a sorted table, the last row whose key is small enough is
  found.
-/

namespace Unscramble.Text

/-! ### Ranges -/

namespace Ranges

variable {ranges : Ranges}

theorem exists_of_searchFrom {n fuel low high : ℕ} (h : searchFrom ranges n fuel low high = true) :
    ∃ range ∈ ranges.toList, range.1 ≤ n ∧ n ≤ range.2 := by
  induction fuel generalizing low high with
  | zero => cases h
  | succ fuel ih =>
    rw [searchFrom] at h
    split at h
    · dsimp only at h
      split at h
      · cases h
      · next first last hrow =>
        split at h
        · exact ih h
        · split at h
          · exact ih h
          · exact ⟨_, Array.mem_toList_iff.2 (Array.mem_of_getElem? hrow), by omega, by omega⟩
    · cases h

/-- A character that lies in no range is not found. -/
theorem has_eq_false {c : Char}
    (h : ∀ range ∈ ranges.toList, c.toNat < range.1 ∨ range.2 < c.toNat) :
    ranges.has c = false := by
  rw [Bool.eq_false_iff]
  intro hhas
  obtain ⟨range, hrange, hfirst, hlast⟩ := exists_of_searchFrom hhas
  have := h range hrange
  omega

end Ranges

/-! ### Rows with keys -/

namespace Normal

variable {α : Type} {table : Array α} {key : α → ℕ} {n fuel low high : ℕ} {row : α}

/-- A row that is found lies between the bounds, and its key is small enough. -/
theorem of_lastBelow (h : lastBelow table key n fuel low high = some row) :
    ∃ i, low ≤ i ∧ i < high ∧ table[i]? = some row ∧ key row ≤ n := by
  induction fuel generalizing low high with
  | zero => cases h
  | succ fuel ih =>
    rw [lastBelow] at h
    split at h
    case isFalse => cases h
    case isTrue hlt =>
      dsimp only at h
      split at h
      · cases h
      · next middleRow hrow =>
        split at h
        case isTrue =>
          obtain ⟨i, hlow, hhigh, hi⟩ := ih h
          exact ⟨i, hlow, by omega, hi⟩
        case isFalse hle =>
          have hfound : ∀ {r}, some middleRow = some r → ∃ i, low ≤ i ∧ i < high ∧
              table[i]? = some r ∧ key r ≤ n := by
            rintro r ⟨⟩
            exact ⟨_, by omega, by omega, hrow, by omega⟩
          split at h
          · rcases Option.or_eq_some_iff.1 h with h | ⟨-, h⟩
            · obtain ⟨i, hlow, hhigh, hi⟩ := ih h
              exact ⟨i, by omega, hhigh, hi⟩
            · exact hfound h
          · exact hfound h

/-- A row that is found stands in the table. -/
theorem of_lastRow (h : lastRow table key n = some row) : row ∈ table.toList ∧ key row ≤ n := by
  obtain ⟨i, -, -, hi, hle⟩ := of_lastBelow h
  exact ⟨Array.mem_toList_iff.2 (Array.mem_of_getElem? hi), hle⟩

/-- Nothing is found among rows whose keys are too large. -/
theorem lastBelow_eq_none (h : ∀ i r, low ≤ i → table[i]? = some r → n < key r) :
    lastBelow table key n fuel low high = none := by
  rw [Option.eq_none_iff_forall_ne_some]
  intro r hr
  obtain ⟨i, hlow, -, hi, hle⟩ := of_lastBelow hr
  have := h i r hlow hi
  omega

/-- Each step halves the rows in question, and the row `i` stays among them. -/
theorem lastBelow_eq_some {i : ℕ} (hi : table[i]? = some row)
    (hle : ∀ j r, j ≤ i → table[j]? = some r → key r ≤ n)
    (hgt : ∀ j r, i < j → table[j]? = some r → n < key r) (hlow : low ≤ i) (hhigh : i < high)
    (hsize : high ≤ table.size) (hfuel : high - low < 2 ^ fuel) :
    lastBelow table key n fuel low high = some row := by
  induction fuel generalizing low high with
  | zero => omega
  | succ fuel ih =>
    have hmiddle : (low + high) / 2 < table.size := by omega
    have hrow := Array.getElem?_eq_getElem hmiddle
    rw [lastBelow, if_pos (by omega)]
    dsimp only
    rw [hrow]
    dsimp only
    rw [Nat.pow_succ] at hfuel
    rcases Nat.lt_trichotomy i ((low + high) / 2) with h | rfl | h
    · rw [if_pos (hgt _ _ h hrow)]
      exact ih hlow h (by omega) (by omega)
    · rw [if_neg (Nat.not_lt.2 (hle _ _ le_rfl hrow)),
        lastBelow_eq_none fun j r hj hr ↦ hgt j r hj hr, ← hrow, hi]
      split <;> rfl
    · rw [if_neg (Nat.not_lt.2 (hle _ _ h.le hrow)), if_pos (by omega),
        ih h hhigh hsize (by omega)]
      rfl

/-- The last row whose key is small enough is found: the keys up to it are small enough, and those
behind it are not. -/
theorem lastRow_eq_some {i : ℕ} (hi : table[i]? = some row)
    (hle : ∀ j r, j ≤ i → table[j]? = some r → key r ≤ n)
    (hgt : ∀ j r, i < j → table[j]? = some r → n < key r) : lastRow table key n = some row := by
  obtain ⟨hlt, -⟩ := Array.getElem?_eq_some_iff.1 hi
  refine lastBelow_eq_some hi hle hgt (Nat.zero_le i) hlt le_rfl ?_
  calc table.size - 0 < 2 ^ (table.size.log2 + 1) := by
        rw [Nat.sub_zero, ← Nat.log2_lt (by omega)]
        exact Nat.lt_succ_self _
    _ ≤ 2 ^ (table.size.log2 + 2) := Nat.pow_le_pow_right (by decide) (Nat.le_succ _)

/-- **A row of a sorted table is found** if its key is small enough and those of the rows behind it
are not. -/
theorem lastRow_eq_some_of_mem {R : α → α → Prop} (hpairs : table.toList.Pairwise R)
    (hmem : row ∈ table.toList) (hle : key row ≤ n) (hbefore : ∀ r, R r row → key r ≤ n)
    (hbehind : ∀ r, R row r → n < key r) : lastRow table key n = some row := by
  obtain ⟨i, hi, rfl⟩ := List.getElem_of_mem hmem
  rw [List.pairwise_iff_getElem] at hpairs
  refine lastRow_eq_some (i := i) ?_ (fun j r hj hr ↦ ?_) fun j r hj hr ↦ ?_
  · rw [← Array.getElem?_toList, List.getElem?_eq_getElem hi]
  · rw [← Array.getElem?_toList] at hr
    obtain ⟨hlt, rfl⟩ := List.getElem?_eq_some_iff.1 hr
    rcases Nat.lt_or_eq_of_le hj with hj | rfl
    · exact hbefore _ (hpairs j i hlt hi hj)
    · exact hle
  · rw [← Array.getElem?_toList] at hr
    obtain ⟨hlt, rfl⟩ := List.getElem?_eq_some_iff.1 hr
    exact hbehind _ (hpairs i j hi hlt hj)

end Normal

end Unscramble.Text

import Unscramble.Proofs.Move

/-!
# Moves in memory

A token in memory is an array, and its length and the positions in it are words of 64 bits. Two
things can go wrong there that a list knows nothing of. Twice a number need not be a word, so where
the tail begins must be computed without going round; and a range or a position outside of the array
is not just empty, but stops the program. Here the moves are made in place, by operations that have
no result for such a range or position, and compared with `Move.apply`: they always have a result,
it is that of `Move.apply`, and a token that a move refuses is left as it is.

What an exchange does is also said without `swapFirst`, by what stands at each position.

## Main definitions

* `IsExchange`: two positions have changed places.
* `Buffer`: a token in memory.
* `Buffer.perform?`: a move in place.

## Main statements

* `isExchange_swapFirst`: the head changes places with the position that is given.
* `Buffer.toNat_tailStart`: twice a number does not go round.
* `Buffer.exists_perform?`: a move in place never gets stuck, and does what `Move.apply` does.
* `Move.apply_exact`: what each move does, on lists and in place.
-/

namespace Unscramble

variable {α : Type}

/-! ### Exchanges -/

/-- `u` is `t` with what stands at the positions `i` and `j` exchanged, and all else as it is. -/
structure IsExchange (i j : ℕ) (t u : List α) : Prop where
  length_eq : u.length = t.length
  left : u[i]? = t[j]?
  right : u[j]? = t[i]?
  other : ∀ k, k ≠ i → k ≠ j → u[k]? = t[k]?

/-- An exchange with a position in the token sets both positions. -/
theorem swapFirst_eq_set {t : List α} {i : ℕ} (h0 : 0 < t.length) (hi : i < t.length) :
    swapFirst i t = (t.set 0 t[i]).set i t[0] := by
  rcases t with _ | ⟨a, r⟩
  · cases hi
  rcases i with _ | j
  · rfl
  · have hlt : j < r.length := Nat.lt_of_succ_lt_succ hi
    have hj : r[j]? = some r[j] := List.getElem?_eq_getElem hlt
    rw [swapFirst, hj]
    rfl

/-- **The head changes places** with what stands at a position in the token. -/
theorem isExchange_swapFirst {t : List α} {i : ℕ} (h0 : 0 < t.length) (hi : i < t.length) :
    IsExchange 0 i t (swapFirst i t) := by
  have hlength : i < (t.set 0 t[i]).length := by rwa [List.length_set]
  rw [swapFirst_eq_set h0 hi]
  refine ⟨by rw [List.length_set, List.length_set], ?_, ?_, fun k hk hki ↦ ?_⟩
  · rcases Nat.eq_zero_or_pos i with rfl | hpos
    · rw [List.getElem?_set_self hlength, List.getElem?_eq_getElem h0]
    · rw [List.getElem?_set_ne (Nat.ne_of_gt hpos), List.getElem?_set_self h0,
        List.getElem?_eq_getElem hi]
  · rw [List.getElem?_set_self hlength, List.getElem?_eq_getElem h0]
  · rw [List.getElem?_set_ne (Ne.symm hki), List.getElem?_set_ne (Ne.symm hk)]

/-! ### Tokens in memory -/

/-- The product of two words, or the greatest word if the product is none. -/
def saturatingMul (m n : UInt64) : UInt64 :=
  .ofNat (min (m.toNat * n.toNat) (UInt64.size - 1))

/-- A token in memory. Its length is a word. -/
structure Buffer (α : Type) where
  cells : Array α
  size_lt : cells.size < UInt64.size

namespace Buffer

/-- The number of characters. -/
def length (b : Buffer α) : UInt64 :=
  .ofNatLT b.cells.size b.size_lt

/-- The characters. -/
def toList (b : Buffer α) : List α :=
  b.cells.toList

/-- Reverse the token. -/
def reverse (b : Buffer α) : Buffer α :=
  ⟨b.cells.reverse, by rw [Array.size_reverse]; exact b.size_lt⟩

/-- Remove the characters from position `start` on and in front of `stop`. A range is refused that
is inverted or goes over the end of the token. -/
def drain? (b : Buffer α) (start stop : UInt64) : Option (Buffer α) :=
  if h : start ≤ stop ∧ stop ≤ b.length then
    some ⟨b.cells.extract 0 start.toNat ++ b.cells.extract stop.toNat, by
      have hsize := b.size_lt
      have hle := UInt64.le_iff_toNat_le.1 h.1
      simp only [Array.size_append, Array.size_extract]
      omega⟩
  else none

/-- Exchange what stands at the positions `i` and `j`. A position is refused that is not in the
token. -/
def swap? (b : Buffer α) (i j : UInt64) : Option (Buffer α) :=
  if h : i.toNat < b.cells.size ∧ j.toNat < b.cells.size then
    some ⟨b.cells.swap i.toNat j.toNat h.1 h.2, by rw [Array.size_swap]; exact b.size_lt⟩
  else none

/-- The position where the tail begins that is kept behind `n` characters that are dropped. -/
def tailStart (b : Buffer α) (n : UInt64) : UInt64 :=
  min (saturatingMul n 2) b.length

/-- Make a move in place: whether the token is refused, and the token afterwards. There is no result
if the move gets stuck. -/
def perform? (b : Buffer α) (family : Family) (n : UInt64) :
    Option (Except OutOfRange Unit × Buffer α) :=
  match family with
  | .reverse => some (.ok (), b.reverse)
  | .dropMiddle =>
    if b.length < n then some (.error ⟨.dropMiddle, n.toNat, b.length.toNat⟩, b)
    else (b.drain? n (b.tailStart n)).map fun after ↦ (.ok (), after)
  | .swapHead =>
    if b.length = 0 then some (.error ⟨.swapHead, n.toNat, b.length.toNat⟩, b)
    else (b.swap? 0 (n % b.length)).map fun after ↦ (.ok (), after)

/-! ### Words -/

theorem toNat_length (b : Buffer α) : b.length.toNat = b.toList.length :=
  UInt64.toNat_ofNatLT

theorem length_lt_iff {b : Buffer α} {n : UInt64} :
    b.length < n ↔ b.toList.length < n.toNat := by
  rw [UInt64.lt_iff_toNat_lt, toNat_length]

theorem length_eq_zero_iff {b : Buffer α} : b.length = 0 ↔ b.toList = [] := by
  rw [← UInt64.toNat_inj, toNat_length, ← List.length_eq_zero_iff]
  rfl

theorem toNat_saturatingMul (m n : UInt64) :
    (saturatingMul m n).toNat = min (m.toNat * n.toNat) (UInt64.size - 1) := by
  rw [saturatingMul, UInt64.toNat_ofNat']
  exact Nat.mod_eq_of_lt (Nat.lt_of_le_of_lt (Nat.min_le_right _ _) (by decide))

/-- **The tail begins at twice the number**, or at the end of the token if that is earlier. -/
theorem toNat_tailStart (b : Buffer α) (n : UInt64) :
    (b.tailStart n).toNat = min (2 * n.toNat) b.toList.length := by
  -- the greatest word is no smaller than the length, so it makes no difference
  have hlength : b.toList.length < UInt64.size := b.size_lt
  have htwo : (2 : UInt64).toNat = 2 := rfl
  rw [tailStart, UInt64.toNat_min, toNat_saturatingMul, toNat_length, htwo]
  omega

/-- The range that is dropped is not inverted and does not go over the end. -/
theorem le_tailStart (b : Buffer α) {n : UInt64} (h : ¬ b.length < n) :
    n ≤ b.tailStart n ∧ b.tailStart n ≤ b.length := by
  rw [length_lt_iff] at h
  rw [UInt64.le_iff_toNat_le, UInt64.le_iff_toNat_le, toNat_tailStart, toNat_length]
  omega

/-- A number that is counted round the token is a position in it. -/
theorem mod_length_lt (b : Buffer α) (n : UInt64) (h : ¬ b.length = 0) :
    n % b.length < b.length := by
  rw [UInt64.lt_iff_toNat_lt, UInt64.toNat_mod]
  exact Nat.mod_lt _ (Nat.pos_of_ne_zero fun h0 ↦ h (UInt64.toNat_inj.1 h0))

/-! ### Moves in place -/

/-- A range within the token is removed. -/
theorem exists_drain? (b : Buffer α) {start stop : UInt64} (h : start ≤ stop ∧ stop ≤ b.length) :
    ∃ after, b.drain? start stop = some after ∧
      after.toList = b.toList.take start.toNat ++ b.toList.drop stop.toNat := by
  refine ⟨_, dif_pos h, ?_⟩
  have hextract (start stop : ℕ) : (b.cells.extract start stop).toList =
      (b.toList.drop start).take (stop - start) := by
    rw [Array.toList_extract, List.extract_eq_take_drop]
    rfl
  have htail : (b.toList.drop stop.toNat).take (b.toList.length - stop.toNat) =
      b.toList.drop stop.toNat :=
    List.take_of_length_le (Nat.le_of_eq List.length_drop)
  show (b.cells.extract 0 start.toNat ++ b.cells.extract stop.toNat).toList = _
  rw [Array.toList_append, hextract, hextract, Nat.sub_zero, List.drop_zero]
  exact congrArg _ htail

/-- A head and a tail are kept, and the range between them is one to be removed. -/
theorem exists_drain?_tailStart (b : Buffer α) {n : UInt64} (h : ¬ b.length < n) :
    ∃ after, b.drain? n (b.tailStart n) = some after ∧
      after.toList = b.toList.take n.toNat ++ b.toList.drop (2 * n.toNat) := by
  obtain ⟨after, hafter, hlist⟩ := b.exists_drain? (b.le_tailStart h)
  refine ⟨after, hafter, ?_⟩
  rw [hlist, toNat_tailStart, ← List.drop_eq_drop_min]

/-- The head can be exchanged with the position that a number has round the token. -/
theorem exists_swap?_mod (b : Buffer α) (n : UInt64) (h : ¬ b.length = 0) :
    ∃ after, b.swap? 0 (n % b.length) = some after ∧
      after.toList = swapFirst (n.toNat % b.toList.length) b.toList := by
  have h0 : 0 < b.toList.length := List.length_pos_of_ne_nil (mt length_eq_zero_iff.2 h)
  have hmod : (n % b.length).toNat = n.toNat % b.toList.length := by
    rw [UInt64.toNat_mod, toNat_length]
  have hlt : (n % b.length).toNat < b.toList.length := by
    rw [hmod]
    exact Nat.mod_lt _ h0
  refine ⟨_, dif_pos ⟨h0, hlt⟩, ?_⟩
  rw [← hmod, swapFirst_eq_set h0 hlt]
  exact Array.toList_swap ..

/-- **A move in place does what the move does**: it never gets stuck, it leaves the token that the
move gives, and a token that the move refuses it leaves as it is. -/
theorem exists_perform? (b : Buffer α) (family : Family) (n : UInt64) :
    ∃ outcome after, b.perform? family n = some (outcome, after) ∧
      match (family.bind n.toNat).apply b.toList with
      | .ok u => outcome = .ok () ∧ after.toList = u
      | .error e => outcome = .error e ∧ after = b := by
  rcases family with _ | _ | _
  · exact ⟨_, _, rfl, rfl, Array.toList_reverse⟩
  · rw [perform?, Family.bind, Move.apply]
    by_cases h : b.length < n
    · rw [if_pos h, if_pos (length_lt_iff.1 h), toNat_length]
      exact ⟨_, _, rfl, rfl, rfl⟩
    · obtain ⟨after, hafter, hlist⟩ := b.exists_drain?_tailStart h
      rw [if_neg h, if_neg (mt length_lt_iff.2 h), hafter]
      exact ⟨_, _, rfl, rfl, hlist⟩
  · rw [perform?, Family.bind]
    by_cases h : b.length = 0
    · rw [if_pos h, toNat_length, length_eq_zero_iff.1 h]
      exact ⟨_, _, rfl, rfl, rfl⟩
    · obtain ⟨after, hafter, hlist⟩ := b.exists_swap?_mod n h
      rw [if_neg h, hafter, Move.apply_swapHead _ (mt length_eq_zero_iff.2 h)]
      exact ⟨_, _, rfl, rfl, hlist⟩

end Buffer

/-! ### Moves -/

namespace Move

/-- Dropping `n` characters keeps those in front of them and those behind them. -/
theorem length_take_append_drop {n : ℕ} {t : List α} (h : ¬ t.length < n) :
    (t.take n ++ t.drop (2 * n)).length + min n (t.length - n) = t.length := by
  rw [List.length_append, List.length_take, List.length_drop]
  omega

/-- **What each move does**, with any number and on every token. Reversing never fails. Dropping
fails exactly for a number above the length; otherwise the first `n` characters are kept and those
from position `2 * n` on, and `min n (length - n)` are gone. Exchanging fails exactly on the empty
token; otherwise the head changes places with the character at position `n % length`, and nothing
else changes. A failure tells the family, the number and the length.

In place, with words for the length and the number, twice the number does not go round, the range
to be dropped is not inverted and does not go over the end, and the position for the exchange is in
the token. So no move gets stuck; what it leaves is what the move gives, and a token that the move
refuses is as it was. -/
theorem apply_exact :
    (∀ {α : Type} (t : List α), reverse.apply t = .ok t.reverse) ∧
    (∀ {α : Type} (n : ℕ) (t : List α),
      if t.length < n then (dropMiddle n).apply t = .error ⟨.dropMiddle, n, t.length⟩
      else ∃ u, (dropMiddle n).apply t = .ok u ∧ u = t.take n ++ t.drop (2 * n) ∧
        u.length + min n (t.length - n) = t.length) ∧
    (∀ {α : Type} (n : ℕ) (t : List α),
      if t.length = 0 then (swapHead n).apply t = .error ⟨.swapHead, n, t.length⟩
      else ∃ u, (swapHead n).apply t = .ok u ∧ IsExchange 0 (n % t.length) t u) ∧
    ∀ {α : Type} (b : Buffer α) (n : UInt64),
      (b.tailStart n).toNat = min (2 * n.toNat) b.toList.length ∧
      (b.length < n ∨ n ≤ b.tailStart n ∧ b.tailStart n ≤ b.length) ∧
      (b.length = 0 ∨ n % b.length < b.length) ∧
      ∀ family : Family, ∃ outcome after, b.perform? family n = some (outcome, after) ∧
        match (family.bind n.toNat).apply b.toList with
        | .ok u => outcome = .ok () ∧ after.toList = u
        | .error e => outcome = .error e ∧ after = b := by
  refine ⟨fun t ↦ rfl, fun n t ↦ ?_, fun n t ↦ ?_, fun b n ↦ ?_⟩
  · split
    case isTrue h => rw [apply, if_pos h]
    case isFalse h =>
      rw [apply, if_neg h]
      exact ⟨_, rfl, rfl, length_take_append_drop h⟩
  · split
    case isTrue h =>
      rw [List.length_eq_zero_iff.1 h]
      rfl
    case isFalse h =>
      have h0 : 0 < t.length := Nat.pos_of_ne_zero h
      rw [apply_swapHead n (List.ne_nil_of_length_pos h0)]
      exact ⟨_, rfl, isExchange_swapFirst h0 (Nat.mod_lt n h0)⟩
  · exact ⟨b.toNat_tailStart n, or_iff_not_imp_left.2 b.le_tailStart,
      or_iff_not_imp_left.2 (b.mod_length_lt n), fun family ↦ b.exists_perform? family n⟩

end Move

end Unscramble

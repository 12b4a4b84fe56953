/-!
# Moves on a token

A token is a list of characters, and a *move* rearranges it without looking at the characters. There
are three families: reversing, dropping characters after the head, and exchanging the first
character with another. A move of the last two families has a number, which a plan supplies.

`Move.apply` is therefore defined for lists over any type. Run on the list of positions
`0, 1, …` it gives the positions that a move keeps, in their new order.

## Main statements

* `apply_map`: moves commute with renaming the elements.
-/

namespace Unscramble

/-- What kind of rearrangement a helper of a script performs. -/
inductive Family
  /-- Reverse the token. -/
  | reverse
  /-- Drop as many characters as are kept in front of them. -/
  | dropMiddle
  /-- Exchange the first character with another one. -/
  | swapHead
  deriving DecidableEq, Repr

/-- The name of a family. -/
def Family.name : Family → String
  | reverse => "reverse"
  | dropMiddle => "drop-middle"
  | swapHead => "swap-head"

/-- A rearrangement with its number. -/
inductive Move
  /-- Reverse the token. -/
  | reverse
  /-- Keep the first `n` characters and those from position `2 * n` on. -/
  | dropMiddle (n : Nat)
  /-- Exchange the first character with the one at position `n`, counted round the token. -/
  | swapHead (n : Nat)
  deriving DecidableEq, Repr

/-- A move of the family with the given number, which a reversal does not use. -/
def Family.bind : Family → Nat → Move
  | reverse, _ => .reverse
  | dropMiddle, n => .dropMiddle n
  | swapHead, n => .swapHead n

/-- A number that no move of its family has on a token of the given length. -/
structure OutOfRange where
  family : Family
  argument : Nat
  length : Nat
  deriving DecidableEq, Repr

/-- The list with its head and the element at position `i` exchanged. -/
def swapFirst {α : Type} (i : Nat) : List α → List α
  | [] => []
  | a :: r =>
    match i with
    | 0 => a :: r
    | j + 1 =>
      match r[j]? with
      | some b => b :: r.set j a
      | none => a :: r

namespace Move

/-- The family of a move. -/
def family : Move → Family
  | reverse => .reverse
  | dropMiddle _ => .dropMiddle
  | swapHead _ => .swapHead

/-- The text of a move: its family, with the number if it has one. -/
def text : Move → String
  | reverse => "reverse"
  | dropMiddle n => s!"drop-middle({n})"
  | swapHead n => s!"swap-head({n})"

/-- Run a move on a token. Dropping needs a head of `n` characters, and swapping a first one. -/
def apply {α : Type} : Move → List α → Except OutOfRange (List α)
  | reverse, t => .ok t.reverse
  | dropMiddle n, t =>
    if t.length < n then .error ⟨.dropMiddle, n, t.length⟩
    else .ok (t.take n ++ t.drop (2 * n))
  | swapHead n, t =>
    if t.isEmpty then .error ⟨.swapHead, n, 0⟩ else .ok (swapFirst (n % t.length) t)

end Move

variable {α β : Type}

@[simp] theorem length_swapFirst (i : Nat) (t : List α) : (swapFirst i t).length = t.length := by
  cases t with
  | nil => rfl
  | cons a r =>
    cases i with
    | zero => rfl
    | succ j =>
      rw [swapFirst]
      cases r[j]? <;> simp

theorem map_swapFirst (f : α → β) (i : Nat) (t : List α) :
    (swapFirst i t).map f = swapFirst i (t.map f) := by
  cases t with
  | nil => rfl
  | cons a r =>
    cases i with
    | zero => rfl
    | succ j =>
      simp only [swapFirst, List.map_cons, List.getElem?_map]
      cases h : r[j]? <;> simp [List.map_set]

namespace Move

/-- A move that succeeds on a token succeeds on its renamings, and renames what it gives. -/
theorem apply_map (f : α → β) (m : Move) (t : List α) :
    m.apply (t.map f) = (m.apply t).map (List.map f) := by
  cases m with
  | reverse => simp [apply, Except.map]
  | dropMiddle n =>
    simp only [apply, List.length_map]
    split <;> simp [Except.map, List.map_take, List.map_drop]
  | swapHead n =>
    simp only [apply, List.length_map, List.isEmpty_iff, List.map_eq_nil_iff]
    split <;> simp [Except.map, map_swapFirst]

end Move

end Unscramble

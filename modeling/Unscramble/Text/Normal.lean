import Unscramble.Text.CombiningClass
import Unscramble.Text.Decomposition

/-!
# Composed form

A character such as `é` can be one character, or a letter and a mark. The composed form of a text is
the one with as few characters as possible: every character is taken apart, the marks after a letter
are put in the order of their combining classes, and then letters and marks are put together again.

## Main definitions

* `decompose`: a text taken apart, with its marks in order.
* `compose`: neighbours put together.
* `composed`: the composed form.
-/

namespace Unscramble.Text.Normal

/-! ### Taking apart -/

/-- The place of the last row whose key is at most `n`, in a table sorted by `key`; of the rows from
`low` up to, but not including, `high`. -/
def lastBelow {α : Type} (table : Array α) (key : α → Nat) (n : Nat) :
    (fuel low high : Nat) → Option α
  | 0, _, _ => none
  | fuel + 1, low, high =>
    if low < high then
      let middle := (low + high) / 2
      match table[middle]? with
      | none => none
      | some row =>
        if n < key row then lastBelow table key n fuel low middle
        else if middle + 1 < high then
          (lastBelow table key n fuel (middle + 1) high).or (some row)
        else some row
    else none

/-- The last row of a sorted table whose key is at most `n`. -/
def lastRow {α : Type} (table : Array α) (key : α → Nat) (n : Nat) : Option α :=
  lastBelow table key n (table.size.log2 + 2) 0 table.size

/-- The first of the composed Korean syllables. -/
def syllableBase : Nat := 0xAC00

/-- The three parts of a composed Korean syllable, of which the last can be missing. -/
def syllableParts? (n : Nat) : Option (List Char) :=
  if syllableBase ≤ n ∧ n < syllableBase + 11172 then
    let i := n - syllableBase
    let front := [Char.ofNat (0x1100 + i / 588), Char.ofNat (0x1161 + i % 588 / 28)]
    some (if i % 28 = 0 then front else front ++ [Char.ofNat (0x11A7 + i % 28)])
  else none

/-- The two parts of a character, by the table. -/
def parts? (c : Char) : Option (Nat × Nat) :=
  match lastRow decompositions (·.1) c.toNat with
  | some (n, a, b) => if n = c.toNat then some (a, b) else none
  | none => none

/-- A character taken apart. The parts of a pair's first part are taken apart in turn; no character
of the table is nested deeper than `fuel` is chosen below. -/
def takeApart : (fuel : Nat) → Char → List Char
  | 0, c => [c]
  | fuel + 1, c =>
    match syllableParts? c.toNat with
    | some cs => cs
    | none =>
      match parts? c with
      | none => [c]
      | some (a, 0) => takeApart fuel (Char.ofNat a)
      | some (a, b) => takeApart fuel (Char.ofNat a) ++ [Char.ofNat b]

/-- The combining class of a character. -/
def combiningClass (c : Char) : Nat :=
  match lastRow combiningRuns (·.1) c.toNat with
  | some (_, last, k) => if c.toNat ≤ last then k else 0
  | none => 0

/-- Put a mark of class `k` behind the marks of lower class that come first. A character of class
zero is not passed. -/
def insertMark (c : Char) (k : Nat) : List (Char × Nat) → List (Char × Nat)
  | [] => [(c, k)]
  | (d, j) :: r => if j = 0 ∨ k ≤ j then (c, k) :: (d, j) :: r else (d, j) :: insertMark c k r

/-- Put the marks after each character of class zero in the order of their classes, those of one
class in the order in which they stand. -/
def sortMarks : List (Char × Nat) → List (Char × Nat)
  | [] => []
  | (c, k) :: r => if k = 0 then (c, k) :: sortMarks r else insertMark c k (sortMarks r)

/-- A text taken apart, each character with its combining class, and marks in order. -/
def decompose (s : List Char) : List (Char × Nat) :=
  sortMarks ((s.flatMap (takeApart 4)).map fun c ↦ (c, combiningClass c))

/-! ### Putting together -/

/-- The Korean syllable that two characters make up. -/
def syllable? (a b : Nat) : Option Nat :=
  if 0x1100 ≤ a ∧ a < 0x1113 ∧ 0x1161 ≤ b ∧ b < 0x1176 then
    some (syllableBase + ((a - 0x1100) * 21 + (b - 0x1161)) * 28)
  else if syllableBase ≤ a ∧ a < syllableBase + 11172 ∧ (a - syllableBase) % 28 = 0 ∧
      0x11A8 ≤ b ∧ b < 0x11C3 then
    some (a + (b - 0x11A7))
  else none

/-- The character that two others make up. -/
def join? (a b : Char) : Option Char :=
  match syllable? a.toNat b.toNat with
  | some n => some (Char.ofNat n)
  | none =>
    match decompositions.find? fun row ↦ row.2.2 == b.toNat && row.2.1 == a.toNat with
    | some (n, _, _) =>
      if b.toNat = 0 ∨ neverComposed.contains n then none else some (Char.ofNat n)
    | none => none

/-- Put characters together. `base` is the character that others are joined to, and `between` holds
those behind it, last one first, that could not be joined; a character is kept from its base by a
character of class zero or of its own class in between. -/
def composeFrom (base : Char) (between : List (Char × Nat)) : List (Char × Nat) → List Char
  | [] => base :: between.reverse.map (·.1)
  | (c, k) :: r =>
    let free := match between with
      | [] => true
      | (_, j) :: _ => j < k
    match if free then join? base c else none with
    | some d => composeFrom d between r
    | none =>
      if k = 0 then base :: between.reverse.map (·.1) ++ composeFrom c [] r
      else composeFrom base ((c, k) :: between) r

/-- Put the neighbours of a text together, as far as they have a character for both. -/
def compose : List (Char × Nat) → List Char
  | [] => []
  | (c, 0) :: r => composeFrom c [] r
  | (c, _) :: r => c :: compose r

/-- The composed form of a text. ASCII has no other form. -/
def composed (s : List Char) : List Char :=
  if s.all fun c ↦ c.toNat < 0x80 then s else compose (decompose s)

end Unscramble.Text.Normal

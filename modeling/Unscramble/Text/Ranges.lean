/-!
# Sets of code points as sorted ranges

A table of disjoint inclusive ranges in ascending order, with membership by bisection. The tables of
the character properties are values of this type.
-/

namespace Unscramble.Text

/-- Inclusive ranges of code points, disjoint and ascending. -/
abbrev Ranges := Array (Nat × Nat)

namespace Ranges

/-- Whether `n` lies in one of the ranges with index from `low` up to, but not including, `high`. -/
def searchFrom (ranges : Ranges) (n : Nat) : (fuel low high : Nat) → Bool
  | 0, _, _ => false
  | fuel + 1, low, high =>
    if low < high then
      let middle := (low + high) / 2
      match ranges[middle]? with
      | none => false
      | some (first, last) =>
        if n < first then searchFrom ranges n fuel low middle
        else if last < n then searchFrom ranges n fuel (middle + 1) high
        else true
    else false

/-- Whether the code point of `c` lies in one of the ranges. Each step of the search at least halves
the number of candidates, so as many steps as the size has binary digits are enough. -/
def has (ranges : Ranges) (c : Char) : Bool :=
  searchFrom ranges c.toNat (ranges.size.log2 + 2) 0 ranges.size

end Ranges

end Unscramble.Text

import Unscramble.Text.Hex
import Unscramble.Text.Split

/-!
# Addresses of eight pieces

Eight pieces of sixteen bits, written as groups of up to four hexadecimal digits between colons. Two
colons in a row, at most once, stand for one or more zero pieces, and the last two pieces may be
written as four decimal bytes. An address is written with the first of its longest runs of zero
pieces left out, if that run has at least two.

## Main definitions

* `Ipv6.read?`: the address that a text is.
* `Ipv6.text`: the written form of an address.
-/

namespace Unscramble.Url

open Unscramble.Text

/-- An address of eight pieces. -/
structure Ipv6 where
  pieces : List UInt16
  length_pieces : pieces.length = 8
  deriving DecidableEq

namespace Ipv6

/-! ### Reading -/

/-- Cut at the first two colons in a row. -/
def cutGap? : List Char → Option (List Char × List Char)
  | ':' :: ':' :: r => some ([], r)
  | c :: r => (cutGap? r).map fun (a, b) ↦ (c :: a, b)
  | [] => none

/-- The piece of one group: one to four hexadecimal digits. -/
def group? (s : List Char) : Option UInt16 :=
  if s.length ≤ 4 then (Hex.value? s).map Nat.toUInt16 else none

/-- The byte of one decimal number, which has no leading zero. -/
def byte? (s : List Char) : Option Nat :=
  if s.isEmpty || 3 < s.length || !s.all Char.isDigit || (s.head? == some '0' && s.length ≠ 1) then
    none
  else
    let n := Nat.ofDigitChars 10 s 0
    if n < 256 then some n else none

/-- The two pieces of four decimal bytes. -/
def dotted? (s : List Char) : Option (List UInt16) := do
  match ← (Text.pieces (· == '.') s).mapM byte? with
  | [a, b, c, d] => some [(a * 256 + b).toUInt16, (c * 256 + d).toUInt16]
  | _ => none

/-- The pieces of groups between colons; the last group may be four decimal bytes if `tail` is
set. -/
def groups? (tail : Bool) : List (List Char) → Option (List UInt16)
  | [] => some []
  | [s] => if tail && s.contains '.' then dotted? s else (group? s).map ([·])
  | s :: r => do return (← group? s) :: (← groups? tail r)

/-- The pieces of a part of an address that holds no gap. -/
def run? (tail : Bool) (s : List Char) : Option (List UInt16) :=
  if s.isEmpty then some [] else groups? tail (Text.pieces (· == ':') s)

/-- The address with the given pieces, if there are eight. -/
def ofList? (pieces : List UInt16) : Option Ipv6 :=
  if h : pieces.length = 8 then some ⟨pieces, h⟩ else none

/-- The address that a text is. -/
def read? (s : List Char) : Option Ipv6 :=
  match cutGap? s with
  | none => do ofList? (← run? true s)
  | some (before, after) => do
    let front ← run? false before
    let back ← run? true after
    if front.length + back.length < 8 then
      ofList? (front ++ List.replicate (8 - (front.length + back.length)) 0 ++ back)
    else none

/-! ### Writing -/

/-- How many zeros begin a list. -/
def zeros : List UInt16 → Nat
  | 0 :: r => zeros r + 1
  | _ => 0

/-- The first of the longest runs of zeros: how many pieces stand before it, and its length. -/
def longestGap : List UInt16 → Nat × Nat
  | [] => (0, 0)
  | p :: r =>
    let here := zeros (p :: r)
    let (start, size) := longestGap r
    if size ≤ here then (0, here) else (start + 1, size)

/-- Pieces without a gap, between colons. -/
def textRun (pieces : List UInt16) : List Char :=
  [':'].intercalate (pieces.map fun p ↦ Hex.lower p.toNat)

/-- The written form of an address. -/
def text (a : Ipv6) : List Char :=
  let (start, size) := longestGap a.pieces
  if size < 2 then textRun a.pieces
  else textRun (a.pieces.take start) ++ [':', ':'] ++ textRun (a.pieces.drop (start + size))

end Ipv6

end Unscramble.Url

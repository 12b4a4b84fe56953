import Unscramble.Json.Fault
import Unscramble.Text.Utf8

/-!
# JSON texts as far as they can be read

What is wrong with a JSON text depends on what is wanted from it: a value that nobody asked for is
passed over with fewer questions, and a value of the wrong type is refused before its inside is
looked at. A *draft* therefore holds all values of a text up to the first place where it breaks the
rules, together with what is wrong there. Whoever takes values out of a draft meets its faults in
the order of the text.

## Main definitions

* `Draft`, `Items`, `Members`: values, elements and members as far as they can be read.
* `Trouble`: what is wrong where a draft ends.
* `Draft.fault?`: the first fault of a value that is passed over.
-/

namespace Unscramble.Json

open Unscramble.Text

/-- What is wrong in one place of a text, depending on what is wanted there. -/
structure Trouble where
  /-- The fault if a value is wanted. -/
  wanted : Fault
  /-- The fault if what stands there is passed over. -/
  passed : Fault
  /-- The fault if nothing more is wanted. -/
  closing : Fault
  deriving DecidableEq, Repr

/-- The trouble that is the same whatever is wanted. -/
def Trouble.same (f : Fault) : Trouble :=
  ⟨f, f, f⟩

/-- How a sequence ends. -/
inductive Ending
  | closed
  | broken (trouble : Trouble)
  deriving DecidableEq, Repr

/-- A number as it is written. -/
structure Numeral where
  negative : Bool
  whole : List Char
  fraction : Option (List Char)
  /-- Whether the exponent is negative, and its digits. -/
  exponent : Option (Bool × List Char)
  deriving DecidableEq, Repr

mutual

/-- A value as far as it can be read. -/
inductive Draft
  | null
  | bool (b : Bool)
  | number (n : Numeral)
  /-- A string: its characters, or the first escape in it that stands for none. -/
  | string (s : Except Fault (List Char))
  | array (items : Items)
  | object (members : Members)
  | broken (trouble : Trouble)

/-- The elements of an array as far as they can be read. -/
inductive Items
  | done (ending : Ending)
  | more (item : Draft) (rest : Items)

/-- The members of an object as far as they can be read. -/
inductive Members
  | done (ending : Ending)
  | more (key : Except Fault (List Char)) (value : Draft) (rest : Members)

end

/-- The fault of an ending that is passed over. -/
def Ending.fault? : Ending → Option Fault
  | closed => none
  | broken trouble => some trouble.passed

mutual

/-- The first fault of a value that is passed over. Escapes that stand for no character do not
count, nor do numbers that are too large. -/
def Draft.fault? : Draft → Option Fault
  | .array items => items.fault?
  | .object members => members.fault?
  | .broken trouble => some trouble.passed
  | _ => none

/-- The first fault of elements that are passed over. -/
def Items.fault? : Items → Option Fault
  | .done ending => ending.fault?
  | .more item rest =>
    match item.fault? with
    | some f => some f
    | none => rest.fault?

/-- The first fault of members that are passed over. -/
def Members.fault? : Members → Option Fault
  | .done ending => ending.fault?
  | .more _ value rest =>
    match value.fault? with
    | some f => some f
    | none => rest.fault?

end

/-! ### Numbers -/

namespace Numeral

/-- The value of a number that is written without sign, fraction and exponent. -/
def natural? (n : Numeral) : Option Nat :=
  if n.negative || n.fraction.isSome || n.exponent.isSome then none
  else some (Nat.ofDigitChars 10 n.whole 0)

/-- The numbers that round to no finite float: half a unit above the largest one, and beyond. -/
def floatLimit : Nat :=
  Nat.pow 2 1024 - Nat.pow 2 970

/-- Whether no float can hold a number. Its value is `m * 10 ^ e`; powers are taken only of
exponents that the number of digits of `m` leaves in doubt. -/
def overflows (n : Numeral) : Bool :=
  let fraction := n.fraction.getD []
  let m := Nat.ofDigitChars 10 (n.whole ++ fraction) 0
  let size := ((n.whole ++ fraction).dropWhile (· == '0')).length
  let e : Int :=
    (match n.exponent with
      | none => 0
      | some (negative, digits) =>
        let power := Nat.ofDigitChars 10 digits 0
        if negative then -(power : Int) else power) - fraction.length
  if m = 0 ∨ size + e < 300 then false
  else if 320 < size + e then true
  else if 0 ≤ e then floatLimit ≤ m * Nat.pow 10 e.toNat
  else floatLimit * Nat.pow 10 (-e).toNat ≤ m

end Numeral

end Unscramble.Json

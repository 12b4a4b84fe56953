/-!
# Hexadecimal digits

Reading one digit of either case, and writing numbers and bytes with lower-case or upper-case
digits.
-/

namespace Unscramble.Text.Hex

/-- The value of a hexadecimal digit of either case. -/
def digit? (c : Char) : Option Nat :=
  if '0' ≤ c ∧ c ≤ '9' then some (c.toNat - 48)
  else if 'a' ≤ c ∧ c ≤ 'f' then some (c.toNat - 87)
  else if 'A' ≤ c ∧ c ≤ 'F' then some (c.toNat - 55)
  else none

/-- The lower-case digit of a value below sixteen. -/
def lowerDigit (n : Nat) : Char :=
  if n < 10 then Char.ofNat (48 + n) else Char.ofNat (87 + n)

/-- The upper-case digit of a value below sixteen. -/
def upperDigit (n : Nat) : Char :=
  if n < 10 then Char.ofNat (48 + n) else Char.ofNat (55 + n)

/-- A byte as two lower-case digits. -/
def lowerByte (b : UInt8) : List Char :=
  [lowerDigit (b.toNat / 16), lowerDigit (b.toNat % 16)]

/-- A byte as two upper-case digits. -/
def upperByte (b : UInt8) : List Char :=
  [upperDigit (b.toNat / 16), upperDigit (b.toNat % 16)]

/-- A number in lower-case digits without padding. -/
def lower (n : Nat) : List Char :=
  if n < 16 then [lowerDigit n] else lower (n / 16) ++ [lowerDigit (n % 16)]

/-- The value of a text of hexadecimal digits, read from the left; `none` if it is empty or holds
another character. -/
def value? : List Char → Option Nat
  | [] => none
  | s => s.foldlM (fun n c ↦ (digit? c).map (n * 16 + ·)) 0

end Unscramble.Text.Hex

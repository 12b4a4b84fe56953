import Unscramble.Text.Hex
import Unscramble.Text.Utf8

/-!
# Percent triplets

A byte can be written as `%` and two hexadecimal digits. Reading keeps a `%` that two digits do not
follow; writing escapes the bytes that a given set does not admit, with upper-case digits.
-/

namespace Unscramble.Text.Percent

/-- The byte of `%`. -/
def mark : UInt8 := 0x25

/-- The value of a byte that is a hexadecimal digit. -/
def digit? (b : UInt8) : Option Nat :=
  Hex.digit? (Char.ofNat b.toNat)

/-- The byte that a `%` stands for, given the two bytes after it. -/
def triplet? (a b : UInt8) : Option UInt8 :=
  match digit? a, digit? b with
  | some x, some y => some (x * 16 + y).toUInt8
  | _, _ => none

/-- Replace every triplet by its byte; a `%` without two digits stays. -/
def decode : List UInt8 → List UInt8
  | a :: b :: c :: r =>
    if a = mark then
      match triplet? b c with
      | some x => x :: decode r
      | none => a :: decode (b :: c :: r)
    else a :: decode (b :: c :: r)
  | s => s

/-- The triplet of a byte. -/
def triplet (b : UInt8) : List Char :=
  '%' :: Hex.upperByte b

/-- Write bytes, each as itself where `plain` admits it and as a triplet elsewhere. -/
def encodeBytes (plain : UInt8 → Bool) (bytes : List UInt8) : List Char :=
  bytes.flatMap fun b ↦ if plain b then [Char.ofNat b.toNat] else triplet b

/-- Write a text, each byte as itself where `plain` admits it and as a triplet elsewhere. -/
def encode (plain : UInt8 → Bool) (s : List Char) : List Char :=
  encodeBytes plain (Utf8.encode s)

end Unscramble.Text.Percent

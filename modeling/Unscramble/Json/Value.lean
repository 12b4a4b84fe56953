import Unscramble.Text.Hex

/-!
# JSON values and their text

The values that the library writes: numbers are natural numbers, and the members of an object have
an order. Nothing is put between the parts of a value.

In a string the quote, the backslash and control characters are escaped, five of the latter by a
letter and the others by number; all other characters stand for themselves.
-/

namespace Unscramble.Json

open Unscramble.Text

/-- A JSON value. -/
inductive Value
  | null
  | bool (b : Bool)
  | number (n : Nat)
  | string (s : List Char)
  | array (items : List Value)
  | object (members : List (String × Value))

/-- The written form of one character of a string. -/
def escapeChar (c : Char) : List Char :=
  if c = '"' then ['\\', '"']
  else if c = '\\' then ['\\', '\\']
  else if c = '\x08' then ['\\', 'b']
  else if c = '\x0C' then ['\\', 'f']
  else if c = '\n' then ['\\', 'n']
  else if c = '\r' then ['\\', 'r']
  else if c = '\t' then ['\\', 't']
  else if c < ' ' then '\\' :: 'u' :: '0' :: '0' :: Hex.lowerByte c.toNat.toUInt8
  else [c]

/-- The written form of a string. -/
def quote (s : List Char) : List Char :=
  '"' :: s.flatMap escapeChar ++ ['"']

mutual

/-- The written form of a value. -/
def Value.text : Value → List Char
  | .null => ['n', 'u', 'l', 'l']
  | .bool true => ['t', 'r', 'u', 'e']
  | .bool false => ['f', 'a', 'l', 's', 'e']
  | .number n => Nat.toDigits 10 n
  | .string s => quote s
  | .array [] => ['[', ']']
  | .array (v :: r) => '[' :: v.text ++ itemsText r
  | .object [] => ['\x7b', '\x7d']
  | .object ((k, v) :: r) => '\x7b' :: quote k.toList ++ ':' :: v.text ++ membersText r

/-- The written form of further elements, and of the end of their array. -/
def itemsText : List Value → List Char
  | [] => [']']
  | v :: r => ',' :: v.text ++ itemsText r

/-- The written form of further members, and of the end of their object. -/
def membersText : List (String × Value) → List Char
  | [] => ['\x7d']
  | (k, v) :: r => ',' :: quote k.toList ++ ':' :: v.text ++ membersText r

end

end Unscramble.Json

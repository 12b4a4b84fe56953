import Unscramble.Text.Extender
import Unscramble.Text.Hex
import Unscramble.Text.Hidden

/-!
# Quoted text

A text between double quotes on one line, in which every character can be told: quotes, backslashes
and the common controls have an escape of their own, and a character that has no visible form, or
that would merge with its neighbour, is written by its number.
-/

namespace Unscramble.Text.Quoted

/-- A character that extends the one before it. -/
def isExtender (c : Char) : Bool :=
  0x80 ≤ c.toNat && extenderRanges.has c

/-- A character without a visible form. -/
def isHidden (c : Char) : Bool :=
  if c.toNat < 0x80 then c.toNat < 0x20 || c.toNat == 0x7F else hiddenRanges.has c

/-- The written form of a character between quotes. -/
def encodeChar (c : Char) : List Char :=
  match c with
  | '\x00' => ['\\', '0']
  | '\t' => ['\\', 't']
  | '\r' => ['\\', 'r']
  | '\n' => ['\\', 'n']
  | '"' => ['\\', '"']
  | '\\' => ['\\', '\\']
  | c =>
    if isExtender c || isHidden c then ['\\', 'u', '{'] ++ Hex.lower c.toNat ++ ['}'] else [c]

/-- A text between quotes. -/
def encode (s : List Char) : List Char :=
  '"' :: s.flatMap encodeChar ++ ['"']

end Unscramble.Text.Quoted

/-- The text between quotes, with escapes. -/
def Unscramble.Text.quoted (s : String) : String :=
  String.ofList (Unscramble.Text.Quoted.encode s.toList)

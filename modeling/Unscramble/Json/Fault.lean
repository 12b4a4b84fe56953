import Unscramble.Text.Utf8

/-!
# What can be wrong with a JSON text

A text can end too early, break the rules of JSON, or hold values that are not the expected ones.
Where it breaks the rules, or ends, the error names the place.
-/

namespace Unscramble.Json

open Unscramble.Text

/-- What was being read when the text ended. -/
inductive Within
  | array
  | object
  | string
  | value
  deriving DecidableEq, Repr

/-- Why a JSON text cannot be read. -/
inductive Reason
  /-- The text ends too early. -/
  | ended (within : Within)
  /-- A colon must follow a key. -/
  | expectedColon
  /-- A comma or the end of the array must follow an element. -/
  | expectedItemEnd
  /-- A comma or the end of the object must follow a member. -/
  | expectedMemberEnd
  /-- A word other than the three known ones. -/
  | expectedWord
  /-- Nothing that begins a value. -/
  | expectedValue
  /-- A backslash with nothing known behind it. -/
  | badEscape
  /-- A malformed number. -/
  | badNumber
  /-- A number that no float can hold. -/
  | outOfRange
  /-- A control character in a string. -/
  | controlCharacter
  /-- A key that is no string. -/
  | badKey
  /-- Half of a pair of surrogates. -/
  | loneSurrogate
  /-- The first half of a pair of surrogates, with no second half behind it. -/
  | openSurrogate
  /-- A comma with nothing behind it. -/
  | trailingComma
  /-- Something that is not white space behind the value. -/
  | trailingText
  /-- A value of another type than the expected one. -/
  | mismatch
  /-- A number that the expected type cannot hold. -/
  | tooLarge
  /-- A member that was there before. -/
  | duplicate (key : String)
  deriving DecidableEq, Repr

/-- The three ways in which a JSON text can be wrong. -/
inductive Kind
  /-- It breaks the rules of JSON. -/
  | malformed
  /-- It holds other values than expected. -/
  | unexpected
  /-- It ends too early. -/
  | ended
  deriving DecidableEq, Repr

namespace Reason

/-- The way in which a text is wrong. -/
def kind : Reason → Kind
  | ended _ => .ended
  | mismatch | tooLarge | duplicate _ => .unexpected
  | _ => .malformed

/-- The wording of a reason. -/
def message : Reason → String
  | ended .array => "EOF while parsing a list"
  | ended .object => "EOF while parsing an object"
  | ended .string => "EOF while parsing a string"
  | ended .value => "EOF while parsing a value"
  | expectedColon => "expected `:`"
  | expectedItemEnd => "expected `,` or `]`"
  | expectedMemberEnd => "expected `,` or `\x7d`"
  | expectedWord => "expected ident"
  | expectedValue => "expected value"
  | badEscape => "invalid escape"
  | badNumber => "invalid number"
  | outOfRange => "number out of range"
  | controlCharacter => "control character (\\u0000-\\u001F) found while parsing a string"
  | badKey => "key must be a string"
  | loneSurrogate => "lone leading surrogate in hex escape"
  | openSurrogate => "unexpected end of hex escape"
  | trailingComma => "trailing comma"
  | trailingText => "trailing characters"
  | mismatch => "invalid type"
  | tooLarge => "invalid value"
  | duplicate key => s!"duplicate field `{key}`"

end Reason

/-- A reason, and how many characters of the text were left to read when it arose, if that is
known. -/
structure Fault where
  reason : Reason
  left : Option Nat
  deriving DecidableEq, Repr

/-- A place in a text: a line, counted from one, and a column, counted in bytes from one. -/
structure Place where
  line : Nat
  column : Nat
  deriving DecidableEq, Repr

/-- The place where `left` characters of a text are still to be read: the first of them, or behind
the last character if there are none. -/
def Place.of (text : List Char) (left : Nat) : Place :=
  let before := text.take (text.length - left)
  let line := (before.reverse.takeWhile (· != '\n')).reverse
  ⟨(before.filter (· == '\n')).length + 1, Utf8.size line + if left = 0 then 0 else 1⟩

/-- Why a JSON text cannot be read, and where that shows. -/
structure Error where
  reason : Reason
  place : Option Place
  deriving DecidableEq, Repr

/-- The error that a fault is in a text. -/
def Fault.error (text : List Char) (f : Fault) : Error :=
  ⟨f.reason, f.left.map (Place.of text)⟩

/-- The wording of an error. -/
def Error.message (e : Error) : String :=
  match e.place with
  | none => e.reason.message
  | some place => s!"{e.reason.message} at line {place.line} column {place.column}"

end Unscramble.Json

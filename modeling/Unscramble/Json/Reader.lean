import Unscramble.Json.Draft
import Unscramble.Text.Hex

/-!
# Reading a JSON text

The draft of a text: all of its values up to the first place where it breaks the rules.

## Main definitions

* `Draft.read`: the draft of a text, and what follows its value.
-/

namespace Unscramble.Json

open Unscramble.Text

/-- A character that may stand between the parts of a text. -/
def isSpace (c : Char) : Bool :=
  c == ' ' || c == '\n' || c == '\t' || c == '\r'

/-- The text without the space at its beginning. -/
def skipSpace (s : List Char) : List Char :=
  s.dropWhile isSpace

/-- A fault at the first of the characters that are left. -/
def Fault.at (reason : Reason) (rest : List Char) : Fault :=
  ⟨reason, some rest.length⟩

/-! ### Strings -/

/-- What an escape stands for, and how many of the characters behind the backslash belong to it. The
escape can be taken over or passed over; one that stands for no character can only be passed
over. -/
structure Escape where
  char : Except Fault Char
  length : Except Fault Nat

/-- An escape that is neither taken over nor passed over. -/
def Escape.fail (f : Fault) : Escape :=
  ⟨.error f, .error f⟩

/-- The number that four hexadecimal digits stand for. -/
def fourDigits (s : List Char) : Except Fault Nat :=
  match Hex.value? (s.take 4) with
  | some n => if s.length < 4 then .error (.at (.ended .string) []) else .ok n
  | none =>
    if Utf8.size s < 4 then .error (.at (.ended .string) []) else .error (.at .badEscape s)

/-- An escape by number, `s` being what follows the `u`. A character beyond the first 65536 takes
two numbers, the first in the range from D800 to DBFF and the second in the range from DC00 to
DFFF. -/
def escapeByNumber (s : List Char) : Escape :=
  match fourDigits s with
  | .error f => .fail f
  | .ok n =>
    let rest := s.drop 4
    if 0xDC00 ≤ n ∧ n < 0xE000 then ⟨.error (.at .loneSurrogate rest), .ok 5⟩
    else if 0xD800 ≤ n ∧ n < 0xDC00 then
      match rest with
      | [] | ['\\'] => .fail (.at (.ended .string) [])
      | '\\' :: 'u' :: r =>
        match fourDigits r with
        | .error f => .fail f
        | .ok m =>
          if 0xDC00 ≤ m ∧ m < 0xE000 then
            ⟨.ok (Char.ofNat (0x10000 + (n - 0xD800) * 0x400 + (m - 0xDC00))), .ok 11⟩
          else ⟨.error (.at .loneSurrogate (r.drop 4)), .ok 11⟩
      | '\\' :: r => ⟨.error (.at .openSurrogate r), .ok 5⟩
      | _ => ⟨.error (.at .openSurrogate rest), .ok 5⟩
    else ⟨.ok (Char.ofNat n), .ok 5⟩

/-- The escape that `s` begins with, behind the backslash. -/
def escapeOf (s : List Char) : Escape :=
  match s with
  | [] => .fail (.at (.ended .string) [])
  | 'u' :: r => escapeByNumber r
  | c :: _ =>
    match [('"', '"'), ('\\', '\\'), ('/', '/'), ('b', '\x08'), ('f', '\x0C'), ('n', '\n'),
      ('r', '\r'), ('t', '\t')].lookup c with
    | some d => ⟨.ok d, .ok 1⟩
    | none => .fail (.at .badEscape s)

/-- A string that has been gone through: its characters, and what follows its closing quote. -/
structure Scanned where
  chars : Except Fault (List Char)
  rest : Except Fault (List Char)

/-- A string with one more character at its beginning. -/
def Scanned.cons (c : Except Fault Char) (s : Scanned) : Scanned :=
  ⟨do return (← c) :: (← s.chars), s.rest⟩

/-- Go through a string, behind its opening quote. -/
def scanString (s : List Char) : Scanned :=
  match s with
  | [] => ⟨.error (.at (.ended .string) []), .error (.at (.ended .string) [])⟩
  | c :: r =>
    if c = '"' then ⟨.ok [], .ok r⟩
    else if c = '\\' then
      let escape := escapeOf r
      match escape.length with
      | .error f => ⟨do let _ ← escape.char; throw f, .error f⟩
      | .ok n => .cons escape.char (scanString (r.drop n))
    else if c < ' ' then
      ⟨.error (.at .controlCharacter s), .error (.at .controlCharacter s)⟩
    else .cons (.ok c) (scanString r)
termination_by s.length

/-! ### Numbers -/

/-- A fault of a number: one that ends too early is malformed if it is passed over. -/
def numberTrouble (s : List Char) : Trouble :=
  let malformed := Fault.at .badNumber s
  if s.isEmpty then ⟨.at (.ended .value) [], malformed, malformed⟩ else .same malformed

/-- The digits at the beginning of a text, of which there must be one, and what follows them. -/
def readDigits (s : List Char) : Except Trouble (List Char × List Char) :=
  match s.takeWhile Char.isDigit with
  | [] => .error (numberTrouble s)
  | digits => .ok (digits, s.dropWhile Char.isDigit)

/-- The digits before the point, which begin with a zero only if that is all. -/
def readWhole (s : List Char) : Except Trouble (List Char × List Char) :=
  match s with
  | '0' :: r =>
    if r.head?.any Char.isDigit then .error (.same (.at .badNumber r)) else .ok (['0'], r)
  | _ => readDigits s

/-- The digits behind the point, if there is one. -/
def readFraction (s : List Char) : Except Trouble (Option (List Char) × List Char) :=
  match s with
  | '.' :: r => do
    let (digits, rest) ← readDigits r
    return (some digits, rest)
  | _ => .ok (none, s)

/-- The exponent, if there is one. -/
def readExponent (s : List Char) : Except Trouble (Option (Bool × List Char) × List Char) :=
  match s with
  | [] => .ok (none, [])
  | c :: r =>
    if c = 'e' ∨ c = 'E' then do
      let (negative, r) := match r with
        | '+' :: r => (false, r)
        | '-' :: r => (true, r)
        | _ => (false, r)
      let (digits, rest) ← readDigits r
      return (some (negative, digits), rest)
    else .ok (none, s)

/-- A number, behind its sign. -/
def readNumber (negative : Bool) (s : List Char) : Except Trouble (Numeral × List Char) := do
  let (whole, s) ← readWhole s
  let (fraction, s) ← readFraction s
  let (exponent, s) ← readExponent s
  return (⟨negative, whole, fraction, exponent⟩, s)

/-! ### Values -/

/-- The rest of a word after its first letter. -/
def readWord (word s : List Char) : Except Trouble (List Char) :=
  match word, s with
  | [], s => .ok s
  | _ :: _, [] => .error (.same (.at (.ended .value) []))
  | a :: word, c :: r =>
    if a = c then readWord word r else .error (.same (.at .expectedWord (c :: r)))

/-- What has been read, and what follows it unless the text breaks off there. -/
abbrev Step (α : Type) := α × Option (List Char)

/-- A value that is a number or a word. -/
def simple {α : Type} (draft : α → Draft) : Except Trouble (α × List Char) → Step Draft
  | .ok (a, rest) => (draft a, some rest)
  | .error trouble => (.broken trouble, none)

/-- What is wrong where an element or the end of an array must follow. -/
def itemTrouble : List Char → Trouble
  | [] => .same (.at (.ended .array) [])
  | s => ⟨.at .expectedItemEnd s, .at .expectedItemEnd s, .at .trailingText s⟩

/-- What is wrong where a comma is followed by the end of an array, or of the text. -/
def commaTrouble : List Char → Trouble
  | [] => ⟨.at (.ended .value) [], .at (.ended .value) [], .at .trailingText []⟩
  | s => ⟨.at .trailingComma s, .at .expectedValue s, .at .trailingComma s⟩

/-- What is wrong where a key must stand; `first` tells that no member stands before it. -/
def keyTrouble (first : Bool) : List Char → Trouble
  | [] =>
    if first then .same (.at (.ended .object) [])
    else ⟨.at (.ended .value) [], .at (.ended .object) [], .at .trailingComma []⟩
  | c :: r =>
    if c = '\x7d' then
      ⟨.at .trailingComma (c :: r), .at .badKey (c :: r), .at .trailingComma (c :: r)⟩
    else .same (.at .badKey (c :: r))

/-- What is wrong where a comma or the end of an object must follow a member. -/
def memberTrouble : List Char → Trouble
  | [] => .same (.at (.ended .object) [])
  | s => .same (.at .expectedMemberEnd s)

/-- What is wrong where a colon must follow a key. -/
def colonTrouble : List Char → Trouble
  | [] => .same (.at (.ended .object) [])
  | s => .same (.at .expectedColon s)

mutual

/-- The value at the beginning of a text, after any space. -/
def readValue : (fuel : Nat) → List Char → Step Draft
  | 0, _ => (.broken (.same (.at .expectedValue [])), none)
  | fuel + 1, s =>
    match skipSpace s with
    | [] => (.broken (.same (.at (.ended .value) [])), none)
    | c :: r =>
      if c = 'n' then
        simple (fun _ ↦ .null) ((readWord ['u', 'l', 'l'] r).map fun rest ↦ ((), rest))
      else if c = 't' then
        simple .bool ((readWord ['r', 'u', 'e'] r).map fun rest ↦ (true, rest))
      else if c = 'f' then
        simple .bool ((readWord ['a', 'l', 's', 'e'] r).map fun rest ↦ (false, rest))
      else if c = '-' then simple .number (readNumber true r)
      else if c.isDigit then simple .number (readNumber false (c :: r))
      else if c = '"' then
        let scanned := scanString r
        match scanned.rest with
        | .ok rest => (.string scanned.chars, some rest)
        | .error f =>
          let wanted := match scanned.chars with
            | .error f => f
            | .ok _ => f
          (.broken ⟨wanted, f, f⟩, none)
      else if c = '[' then
        let (items, rest) := readItems fuel true r
        (.array items, rest)
      else if c = '\x7b' then
        let (members, rest) := readMembers fuel true r
        (.object members, rest)
      else (.broken (.same (.at .expectedValue (c :: r))), none)

/-- The elements of an array, from behind its bracket or behind an element on. -/
def readItems : (fuel : Nat) → (first : Bool) → List Char → Step Items
  | 0, _, _ => (.done (.broken (.same (.at .expectedValue []))), none)
  | fuel + 1, first, s =>
    let item (s : List Char) : Step Items :=
      let (value, rest) := readValue fuel s
      match rest with
      | none => (.more value (.done .closed), none)
      | some rest =>
        let (items, rest) := readItems fuel false rest
        (.more value items, rest)
    match skipSpace s with
    | ']' :: r => (.done .closed, some r)
    | [] => (.done (.broken (itemTrouble [])), none)
    | c :: r =>
      if first then item (c :: r)
      else if c = ',' then
        match skipSpace r with
        | [] => (.done (.broken (commaTrouble [])), none)
        | ']' :: r => (.done (.broken (commaTrouble (']' :: r))), none)
        | r => item r
      else (.done (.broken (itemTrouble (c :: r))), none)

/-- The members of an object, from behind its brace or behind a member on. -/
def readMembers : (fuel : Nat) → (first : Bool) → List Char → Step Members
  | 0, _, _ => (.done (.broken (.same (.at .expectedValue []))), none)
  | fuel + 1, first, s =>
    let member (s : List Char) : Step Members :=
      match s with
      | '"' :: r =>
        let scanned := scanString r
        match scanned.rest with
        | .error f =>
          let wanted := match scanned.chars with
            | .error f => f
            | .ok _ => f
          (.done (.broken ⟨wanted, f, f⟩), none)
        | .ok rest =>
          match skipSpace rest with
          | ':' :: rest =>
            let (value, rest) := readValue fuel rest
            match rest with
            | none => (.more scanned.chars value (.done .closed), none)
            | some rest =>
              let (members, rest) := readMembers fuel false rest
              (.more scanned.chars value members, rest)
          | rest => (.more scanned.chars (.broken (colonTrouble rest)) (.done .closed), none)
      | s => (.done (.broken (keyTrouble first s)), none)
    match skipSpace s with
    | '\x7d' :: r => (.done .closed, some r)
    | s =>
      if first then member s
      else
        match s with
        | ',' :: r => member (skipSpace r)
        | s => (.done (.broken (memberTrouble s)), none)

end

/-- The draft of the value that a text begins with, and what follows it unless the text breaks off
in it. At most two steps of reading go by before a character is taken, so that there are steps
enough. -/
def Draft.read (s : List Char) : Step Draft :=
  readValue (2 * s.length + 1) s

end Unscramble.Json

import Unscramble.Text.Blank
import Unscramble.Text.Digit
import Unscramble.Text.LetterCase
import Unscramble.Text.Word

/-!
# Character classes

What one position of a pattern admits: a range, one of the standard classes, or a Boolean
combination of classes. A class is evaluated on a character; it is never expanded into its members.

The standard classes are those of all scripts. On ASCII they are decided without a table, so that
facts about the names and numbers of a script need none.
-/

namespace Unscramble.Pattern

open Unscramble.Text

/-- A word character: alphabetic, a mark, a decimal digit, connector punctuation or a join
control. -/
def isWord (c : Char) : Bool :=
  if c.toNat < 0x80 then c.isAlphanum || c == '_' else wordRanges.has c

/-- A decimal digit of any script. -/
def isDigit (c : Char) : Bool :=
  if c.toNat < 0x80 then c.isDigit else digitRanges.has c

/-- A set of characters. -/
inductive CharClass
  /-- The characters from `low` to `high`. -/
  | range (low high : Char)
  /-- The word characters. -/
  | word
  /-- The decimal digits. -/
  | digit
  /-- The white-space characters. -/
  | blank
  /-- The characters of a table. -/
  | table (ranges : Ranges)
  /-- No character. -/
  | nothing
  /-- The characters outside a class. -/
  | not (a : CharClass)
  /-- The characters of either class. -/
  | union (a b : CharClass)
  /-- The characters of both classes. -/
  | inter (a b : CharClass)
  /-- The characters of the first class that are not in the second. -/
  | diff (a b : CharClass)
  /-- The characters of exactly one of two classes. -/
  | symDiff (a b : CharClass)
  /-- The characters that differ at most in case from one of the class. -/
  | anyCase (a : CharClass)
  /-- The characters that differ at most in the case of an ASCII letter from one of the class. -/
  | anyAsciiCase (a : CharClass)

namespace CharClass

/-- Membership in a class. -/
def has : CharClass → Char → Bool
  | range low high, c => low ≤ c && c ≤ high
  | word, c => isWord c
  | digit, c => isDigit c
  | blank, c => isBlank c
  | table ranges, c => ranges.has c
  | nothing, _ => false
  | not a, c => !a.has c
  | union a b, c => a.has c || b.has c
  | inter a b, c => a.has c && b.has c
  | diff a b, c => a.has c && !b.has c
  | symDiff a b, c => a.has c != b.has c
  | anyCase a, c => (caseFamily c).any a.has
  | anyAsciiCase a, c => a.has c || a.has c.toLower || a.has c.toUpper

/-- The class of one character. -/
def only (c : Char) : CharClass :=
  range c c

/-- The class of every character. -/
def anything : CharClass :=
  not nothing

/-- The characters of any of the classes. -/
def unions : List CharClass → CharClass
  | [] => nothing
  | [a] => a
  | a :: as => union a (unions as)

@[simp] theorem has_only (c d : Char) : (only c).has d = (d == c) := by
  rw [Bool.eq_iff_iff]
  simp only [only, has, Bool.and_eq_true, decide_eq_true_eq, beq_iff_eq]
  constructor
  · intro h
    exact Char.le_antisymm h.2 h.1
  · rintro rfl
    exact ⟨Char.le_refl _, Char.le_refl _⟩

end CharClass

end Unscramble.Pattern

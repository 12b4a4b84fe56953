/-!
# Why a text is no pattern
-/

namespace Unscramble.Pattern

/-- Why a text is no pattern. -/
inductive PatternError
  /-- A repetition has nothing before it that could be repeated. -/
  | nothingToRepeat
  /-- A group is not closed. -/
  | unclosedGroup
  /-- A `)` closes no group. -/
  | unopenedGroup
  /-- Conditions on the text around a place are not supported. -/
  | lookAround
  /-- A group has an empty name. -/
  | emptyGroupName
  /-- A character cannot stand in the name of a group. -/
  | badGroupName (c : Char)
  /-- The name of a group is not closed. -/
  | unclosedGroupName
  /-- Two groups have one name. -/
  | repeatedGroupName (name : List Char)
  /-- A letter is no switch. -/
  | unknownSwitch (c : Char)
  /-- A switch occurs twice in one list. -/
  | repeatedSwitch (c : Char)
  /-- A `-` ends a list of switches. -/
  | danglingMinus
  /-- A list of switches is not closed. -/
  | unclosedSwitches
  /-- A counted repetition is not closed. -/
  | unclosedCount
  /-- A counted repetition lacks its count. -/
  | missingCount
  /-- A count is too large. -/
  | countTooLarge
  /-- The least count exceeds the largest. -/
  | countsReversed
  /-- The pattern ends within an escape. -/
  | unfinishedEscape
  /-- References to captured text are not supported. -/
  | backReference
  /-- A letter has no escape. -/
  | unknownEscape (c : Char)
  /-- A character is no hexadecimal digit. -/
  | badHexDigit (c : Char)
  /-- A code point in braces has no digits. -/
  | emptyHex
  /-- A number is no code point of a character. -/
  | notACharacter
  /-- The name of a word edge is not closed. -/
  | unclosedEdge
  /-- A word edge of that name is not known. -/
  | unknownEdge
  /-- A class is not closed. -/
  | unclosedClass
  /-- A range ends before it starts. -/
  | rangeReversed
  /-- The end of a range is no single character. -/
  | rangeOfClass
  /-- A condition on a place stands in a class. -/
  | conditionInClass
  /-- A character property of that name is not known. -/
  | unknownProperty (name : List Char)
  /-- A pattern without Unicode uses what needs it. -/
  | needsUnicode
  /-- Parts are nested too deeply. -/
  | tooDeep
  /-- The pattern is too large when its counts are written out. -/
  | tooLarge
  deriving DecidableEq

end Unscramble.Pattern

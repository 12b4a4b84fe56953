import Unscramble.Pattern.Meaning

/-!
# Patterns

A pattern is read from a text and searched for in other texts. A search finds the leftmost place
where the pattern matches, and there the match that it prefers.
-/

namespace Unscramble

/-- A pattern that is ready for searching: its meaning, and the indices of its named groups. -/
structure Pattern where
  node : Pattern.Node
  names : List (List Char × Nat)

namespace Pattern

/-- Read a pattern. -/
def read (s : List Char) : Except PatternError Pattern := do
  let written ← Written.read s
  if sizeLimit < written.expr.size then .error .tooLarge
  else
    let (node, _) ← (written.expr.toNode false false).run ⟨{}, 0⟩
    return ⟨node, written.names⟩

/-- The text of a group in a match: what it captured last, if it took part. -/
def Place.captured? (q : Place) (group : Nat) : Option (List Char) :=
  (q.captures.find? (·.group == group)).map Capture.text

/-- The leftmost match in a text. -/
def find? (p : Pattern) (text : List Char) : Option Place :=
  p.node.search none 0 text

/-- Whether the pattern occurs in a text. -/
def occursIn (p : Pattern) (text : List Char) : Bool :=
  (p.find? text).isSome

/-- The index of a named group. -/
def group? (p : Pattern) (name : List Char) : Option Nat :=
  (p.names.find? (·.1 == name)).map (·.2)

/-- The text with a backslash before every character that has a meaning in a pattern. As a pattern
it matches exactly itself. -/
def escape (s : List Char) : List Char :=
  s.flatMap fun c ↦ if isMeta c then ['\\', c] else [c]

end Pattern

end Unscramble

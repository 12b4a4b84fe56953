/-!
# Patterns as written

The tree of a pattern as its text has it. Switches are still in place, counted repetitions are not
written out, and classes are not evaluated; `Expr.toNode` does all that.
-/

namespace Unscramble.Pattern

/-- Options that a pattern can switch on and off for what follows. -/
inductive Switch
  /-- `i`: letters match in either case. -/
  | ignoreCase
  /-- `m`: `^` and `$` match at lines. -/
  | multiLine
  /-- `s`: `.` also matches a line feed. -/
  | dotAll
  /-- `U`: repetitions are lazy, and a `?` makes them greedy. -/
  | swapGreed
  /-- `u`: classes are those of all scripts. -/
  | unicode
  /-- `R`: a carriage return ends a line too. -/
  | crlf
  /-- `x`: white space and comments in the pattern are skipped. -/
  | verbose
  deriving DecidableEq

/-- The letter of a switch. -/
def Switch.ofLetter? : Char → Option Switch
  | 'i' => some ignoreCase
  | 'm' => some multiLine
  | 's' => some dotAll
  | 'U' => some swapGreed
  | 'u' => some unicode
  | 'R' => some crlf
  | 'x' => some verbose
  | _ => none

/-- A list of switches: those before the `-` are switched on, those after it off. -/
structure Switches where
  on : List Switch
  off : List Switch

/-- Whether the list turns a switch on or off; `none` if it does not name it. -/
def Switches.state? (s : Switches) (x : Switch) : Option Bool :=
  if x ∈ s.on then some true else if x ∈ s.off then some false else none

/-- Conditions on a place, as written. -/
inductive Assertion
  /-- `^` -/
  | caret
  /-- `$` -/
  | dollar
  /-- `\A` -/
  | textStart
  /-- `\z` -/
  | textStop
  /-- `\b` -/
  | edge
  /-- `\B` -/
  | noEdge
  /-- `\b\x7bstart\x7d` or `\<` -/
  | wordStart
  /-- `\b\x7bend\x7d` or `\>` -/
  | wordStop
  /-- `\b\x7bstart-half\x7d` -/
  | wordStartHalf
  /-- `\b\x7bend-half\x7d` -/
  | wordStopHalf

/-- Classes with a letter of their own. -/
inductive LetterClass
  /-- `\d` -/
  | digit
  /-- `\s` -/
  | blank
  /-- `\w` -/
  | word

/-- Classes of ASCII characters that have a name. -/
inductive AsciiClass
  | alnum | alpha | ascii | blank | cntrl | digit | graph | lower | print | punct | space | upper
  | word | xdigit

/-- The class of a name. -/
def AsciiClass.ofName? (name : List Char) : Option AsciiClass :=
  match String.ofList name with
  | "alnum" => some alnum
  | "alpha" => some alpha
  | "ascii" => some ascii
  | "blank" => some blank
  | "cntrl" => some cntrl
  | "digit" => some digit
  | "graph" => some graph
  | "lower" => some lower
  | "print" => some print
  | "punct" => some punct
  | "space" => some space
  | "upper" => some upper
  | "word" => some word
  | "xdigit" => some xdigit
  | _ => none

/-- How two classes are combined. -/
inductive ClassOp
  /-- `&&` -/
  | inter
  /-- `--` -/
  | diff
  /-- `~~` -/
  | symDiff

/-- A class as written. -/
inductive ClassExpr
  | empty
  | char (c : Char)
  | range (low high : Char)
  | letter (negated : Bool) (c : LetterClass)
  | ascii (negated : Bool) (c : AsciiClass)
  | property (negated : Bool) (name : List Char)
  | bracket (negated : Bool) (body : ClassExpr)
  | union (a b : ClassExpr)
  | binary (op : ClassOp) (a b : ClassExpr)

/-- What a pair of parentheses does. -/
inductive GroupKind
  /-- It captures, and has an index. -/
  | capture (index : Nat)
  /-- It switches options within. -/
  | switched (s : Switches)

/-- A pattern as written. -/
inductive Expr
  | empty
  | switches (s : Switches)
  | char (c : Char)
  | byte (n : Nat)
  | dot
  | assertion (a : Assertion)
  | cls (c : ClassExpr)
  | group (kind : GroupKind) (body : Expr)
  | loop (least : Nat) (most : Option Nat) (greedy : Bool) (body : Expr)
  | cat (a b : Expr)
  | alt (a b : Expr)

namespace ClassExpr

/-- How deeply brackets and combinations are nested. -/
def depth : ClassExpr → Nat
  | bracket _ body => body.depth + 1
  | union a b => max a.depth b.depth
  | binary _ a b => max a.depth b.depth + 1
  | _ => 0

end ClassExpr

namespace Expr

/-- Several parts after one another. -/
def cats : List Expr → Expr
  | [] => empty
  | [e] => e
  | e :: es => cat e (cats es)

/-- Alternatives, best first. -/
def alts : List Expr → Expr
  | [] => empty
  | [e] => e
  | e :: es => alt e (alts es)

/-- Whether the pattern can match without consuming a character. -/
def canBeEmpty : Expr → Bool
  | empty => true
  | switches _ => true
  | char _ => false
  | byte _ => false
  | dot => false
  | assertion _ => true
  | cls _ => false
  | group _ body => body.canBeEmpty
  | loop least _ _ body => least == 0 || body.canBeEmpty
  | cat a b => a.canBeEmpty && b.canBeEmpty
  | alt a b => a.canBeEmpty || b.canBeEmpty

/-- How deeply groups, repetitions, sequences and alternatives are nested. A sequence of any length
counts once, and so does a list of alternatives: `inCat` and `inAlt` say that the node continues
one. -/
def depth : (inCat inAlt : Bool) → Expr → Nat
  | _, _, cls c => c.depth
  | _, _, group _ body => body.depth false false + 1
  | _, _, loop _ _ _ body => body.depth false false + 1
  | inCat, _, cat a b => max (a.depth true false) (b.depth true false) + (if inCat then 0 else 1)
  | _, inAlt, alt a b => max (a.depth false true) (b.depth false true) + (if inAlt then 0 else 1)
  | _, _, _ => 0

end Expr

end Unscramble.Pattern

import Unscramble.Pattern.Node
import Unscramble.Pattern.Property
import Unscramble.Pattern.Reader
import Unscramble.Text.Utf8

/-!
# From written patterns to their meaning

`Expr.toNode` turns a pattern as written into a `Node`. It resolves switches, evaluates classes to
`CharClass` values and writes counted repetitions out.

## Loops over bodies that can be empty

Where the body of an unbounded repetition can match nothing, every branching point in it and the
loop itself become checkpoints. All repetitions of the body share them, so a run that would come
back to a branching point without having consumed anything since is cut off there. Bodies that
consume a character each time need no checkpoint and get none.

## Main definitions

* `ClassExpr.toClass`: the characters of a written class.
* `Expr.toNode`: the meaning of a written pattern.
-/

namespace Unscramble.Pattern

open Unscramble.Text

/-- The state of the switches at a point of a pattern. -/
structure Mode where
  ignoreCase : Bool := false
  multiLine : Bool := false
  dotAll : Bool := false
  swapGreed : Bool := false
  unicode : Bool := true
  crlf : Bool := false

/-- Turn one switch. -/
def Mode.turn (m : Mode) (on : Bool) : Switch → Mode
  | .ignoreCase => { m with ignoreCase := on }
  | .multiLine => { m with multiLine := on }
  | .dotAll => { m with dotAll := on }
  | .swapGreed => { m with swapGreed := on }
  | .unicode => { m with unicode := on }
  | .crlf => { m with crlf := on }
  | .verbose => m

/-- Turn the switches of a list. -/
def Mode.apply (m : Mode) (s : Switches) : Mode :=
  s.off.foldl (·.turn false ·) (s.on.foldl (·.turn true ·) m)

/-! ### Classes -/

/-- An ASCII word character. -/
def isAsciiWord (c : Char) : Bool :=
  c.isAlphanum || c == '_'

namespace AsciiClass

/-- The characters of a named ASCII class. -/
def toClass : AsciiClass → CharClass
  | alnum => .unions [.range '0' '9', .range 'A' 'Z', .range 'a' 'z']
  | alpha => .unions [.range 'A' 'Z', .range 'a' 'z']
  | ascii => .range '\x00' '\x7F'
  | blank => .unions [.only '\t', .only ' ']
  | cntrl => .unions [.range '\x00' '\x1F', .only '\x7F']
  | digit => .range '0' '9'
  | graph => .range '!' '~'
  | lower => .range 'a' 'z'
  | print => .range ' ' '~'
  | punct => .unions [.range '!' '/', .range ':' '@', .range '[' '\x60', .range '\x7B' '~']
  | space => .unions [.range '\t' '\r', .only ' ']
  | upper => .range 'A' 'Z'
  | word => .unions [.range '0' '9', .range 'A' 'Z', .only '_', .range 'a' 'z']
  | xdigit => .unions [.range '0' '9', .range 'A' 'F', .range 'a' 'f']

end AsciiClass

/-- The characters of a class with a letter of its own. -/
def LetterClass.toClass (unicode : Bool) : LetterClass → CharClass
  | digit => if unicode then .digit else AsciiClass.digit.toClass
  | blank => if unicode then .blank else AsciiClass.space.toClass
  | word => if unicode then .word else AsciiClass.word.toClass

/-- The complement of a class, if asked for. -/
def CharClass.negateIf (negated : Bool) (c : CharClass) : CharClass :=
  if negated then .not c else c

/-- The class with all cases of its letters, if case is ignored. -/
def CharClass.foldIf (m : Mode) (c : CharClass) : CharClass :=
  if m.ignoreCase then (if m.unicode then .anyCase c else .anyAsciiCase c) else c

/-- A class that, without Unicode, must not reach beyond ASCII: it would admit single bytes of
characters. Without Unicode all characters beyond ASCII behave alike in a class, so one decides. -/
def CharClass.checkAscii (m : Mode) (c : CharClass) : Except PatternError CharClass :=
  if !m.unicode && c.has '\x80' then .error .needsUnicode else .ok c

/-- A character that stands in a class; without Unicode it must be ASCII. -/
def checkMember (m : Mode) (c : Char) : Except PatternError Char :=
  if !m.unicode && 0x80 ≤ c.toNat then .error .needsUnicode else .ok c

/-- The characters of a class as written. -/
def ClassExpr.toClass (m : Mode) : ClassExpr → Except PatternError CharClass
  | empty => .ok .nothing
  | char c => do return .only (← checkMember m c)
  | range low high => do return .range (← checkMember m low) (← checkMember m high)
  | letter negated c => (CharClass.negateIf negated (c.toClass m.unicode)).checkAscii m
  | ascii negated c => .ok (CharClass.negateIf negated c.toClass)
  | property negated name =>
    if m.unicode then
      match Property.class? name with
      | some c => .ok (CharClass.negateIf negated (c.foldIf m))
      | none => .error (.unknownProperty name)
    else .error .needsUnicode
  | bracket negated body => do
    (CharClass.negateIf negated ((← body.toClass m).foldIf m)).checkAscii m
  | union a b => do
    let a ← a.toClass m
    let b ← b.toClass m
    return .union a b
  | binary op a b => do
    let a := (← a.toClass m).foldIf m
    let b := (← b.toClass m).foldIf m
    return match op with
      | .inter => .inter a b
      | .diff => .diff a b
      | .symDiff => .symDiff a b

/-- Drop the empty start of a union, so that classes as written have no idle parts. -/
def CharClass.tidy : CharClass → CharClass
  | .union .nothing b => b.tidy
  | .union a b => .union a.tidy b.tidy
  | .not a => .not a.tidy
  | c => c

/-! ### Sizes -/

/-- The size of a pattern that is still accepted, in the units of `Expr.size`. -/
def sizeLimit : Nat := 10 * Nat.pow 2 20

/-- About how much room a class takes. -/
def ClassExpr.size : ClassExpr → Nat
  | empty => 0
  | char _ => 8
  | range _ high => if high.toNat < 0x80 then 8 else 128
  | letter _ .word => 50000
  | letter _ .digit => 3000
  | letter _ .blank => 600
  | ascii _ _ => 32
  | property _ _ => 20000
  | bracket negated body => body.size + if negated then 400 else 24
  | union a b => a.size + b.size
  | binary _ a b => a.size + b.size

/-- The room that a character takes, which is matched byte by byte. -/
def charSize (c : Char) : Nat :=
  32 * (Utf8.encodeChar c).length

/-- About how much room a pattern takes when its counts are written out. -/
def Expr.size : Expr → Nat
  | empty => 32
  | switches _ => 0
  | char c => charSize c
  | byte n => charSize (Char.ofNat n)
  | dot => 400
  | assertion _ => 32
  | cls c => c.size
  | group _ body => body.size + 64
  | loop least most _ body =>
    match most with
    | none => max least 1 * body.size + 32
    | some most => most * (body.size + 32)
  | cat a b => a.size + b.size
  | alt a b => a.size + b.size + 32

/-! ### Patterns -/

/-- What building a node keeps: the switches, and the next free checkpoint. -/
structure BuildState where
  mode : Mode
  next : Nat

/-- Building a node. -/
abbrev Build := StateT BuildState (Except PatternError)

/-- A new checkpoint in front of a node. -/
def checked (guarded : Bool) (node : Node) : Build Node := do
  if guarded then
    let st ← get
    set { st with next := st.next + 1 }
    return .cat (.checkpoint st.next) node
  else return node

/-- An optional part: tried first if greedy, and last otherwise. -/
def Node.opt (greedy : Bool) (node : Node) : Node :=
  if greedy then .alt node .empty else .alt .empty node

/-- Any number of repetitions. A guarded loop passes its checkpoint before each. -/
def loopNode (guarded greedy : Bool) (body : Node) : Build Node := do
  if guarded then
    let st ← get
    set { st with next := st.next + 1 }
    let mark := Node.checkpoint st.next
    return .cat mark (.star greedy (.cat body mark))
  else
    return match body with
      | .one c => .many greedy c
      | body => .star greedy body

/-- At least one repetition. -/
def plusNode (guarded greedy : Bool) (body : Node) : Build Node := do
  return .cat body (← loopNode guarded greedy body)

/-- The given number of parts, built one after another. -/
def repeated (build : Build Node) : Nat → Build (List Node)
  | 0 => return []
  | n + 1 => do
    let node ← build
    return node :: (← repeated build n)

/-- Nested optional parts: each is tried only after the one before it. -/
def optionals (guarded greedy : Bool) (build : Build Node) : Nat → Build Node
  | 0 => return .empty
  | n + 1 => do
    let node ← build
    let rest ← optionals guarded greedy build n
    checked guarded (.opt greedy (match rest with
      | .empty => node
      | rest => .cat node rest))

/-- Nodes one after another. -/
def Node.cats : List Node → Node
  | [] => .empty
  | [a] => a
  | a :: as => .cat a (cats as)

/-- A repetition, given how to build its body and whether that can match nothing. -/
def countedNode (guarded bodyCanBeEmpty greedy : Bool) (build : Bool → Build Node) :
    (least : Nat) → (most : Option Nat) → Build Node
  | 0, none => do
    if bodyCanBeEmpty then
      let body ← build true
      checked true (.opt greedy (← plusNode true greedy body))
    else loopNode guarded greedy (← build guarded)
  | least + 1, none => do
    let guarded := guarded || bodyCanBeEmpty
    let before ← repeated (build guarded) least
    let last ← plusNode guarded greedy (← build guarded)
    return .cats (before ++ [last])
  | least, some most => do
    let before ← repeated (build guarded) least
    match most - least with
    | 0 => return .cats before
    | n => return .cats (before ++ [← optionals guarded greedy (build guarded) n])

/-- A condition on a place under the given switches. -/
def Assertion.toLook (m : Mode) : Assertion → Look
  | caret => if m.multiLine then (if m.crlf then .anyLineStart else .lineStart) else .start
  | dollar => if m.multiLine then (if m.crlf then .anyLineStop else .lineStop) else .stop
  | textStart => .start
  | textStop => .stop
  | edge => .edge (wordOf m)
  | noEdge => .noEdge (wordOf m)
  | wordStart => .wordStart (wordOf m)
  | wordStop => .wordStop (wordOf m)
  | wordStartHalf => .wordStartHalf (wordOf m)
  | wordStopHalf => .wordStopHalf (wordOf m)
where
  /-- The word characters under the given switches. -/
  wordOf (m : Mode) : Char → Bool := if m.unicode then isWord else isAsciiWord

/-- The class of `.` under the given switches. -/
def dotClass (m : Mode) : CharClass :=
  if m.dotAll then .anything
  else if m.crlf then .not (.unions [.only '\r', .only '\n'])
  else .not (.only '\n')

/-- The class of a character that stands for itself. -/
def charClass (m : Mode) (c : Char) : CharClass :=
  (CharClass.only c).foldIf m

/-- Run a part and restore the switches. -/
def within (s : Switches) (build : Build Node) : Build Node := do
  let mode := (← get).mode
  modify fun st ↦ { st with mode := mode.apply s }
  let node ← build
  modify fun st ↦ { st with mode := mode }
  return node

/-- The meaning of a pattern as written. A guarded pattern lies in a loop over a body that can be
empty, and `listed` says that the pattern continues a list of alternatives. -/
def Expr.toNode : (guarded listed : Bool) → Expr → Build Node
  | _, _, empty => return .empty
  | _, _, switches s => do
    modify fun st ↦ { st with mode := st.mode.apply s }
    return .empty
  | _, _, char c => return .one (charClass (← get).mode c)
  | _, _, byte n => do
    let mode := (← get).mode
    if !mode.unicode && 0x80 ≤ n then throw .needsUnicode
    return .one (charClass mode (Char.ofNat n))
  | _, _, dot => do
    let mode := (← get).mode
    if mode.unicode then return .one (dotClass mode) else throw .needsUnicode
  | _, _, assertion a => return .look (a.toLook (← get).mode)
  | _, _, cls c => do
    let c ← c.toClass (← get).mode
    return .one c.tidy
  | guarded, _, group (.capture index) body =>
    within ⟨[], []⟩ (.group index <$> body.toNode guarded false)
  | guarded, _, group (.switched s) body => within s (body.toNode guarded false)
  | guarded, _, loop least most greedy body => do
    let greedy := greedy != (← get).mode.swapGreed
    countedNode guarded body.canBeEmpty greedy (fun guarded ↦ body.toNode guarded false) least most
  | guarded, _, cat a b => do
    let a ← a.toNode guarded false
    let b ← b.toNode guarded false
    return match a, b with
      | .empty, b => b
      | a, .empty => a
      | a, b => .cat a b
  | guarded, listed, alt a b => do
    let a ← a.toNode guarded false
    let b ← b.toNode guarded true
    checked (guarded && !listed) (.alt a b)

end Unscramble.Pattern

import Unscramble.Pattern.Error
import Unscramble.Pattern.Expr
import Unscramble.Text.Blank
import Unscramble.Text.Hex
import Unscramble.Text.Letter
import Unscramble.Text.Numeral

/-!
# Reading patterns

`Expr.read` reads the text of a pattern. Small readers take the text to come and return what they
read with the rest; open groups are kept on a stack, so that the main loop consumes at least one
character per step and needs no more steps than the text has characters.

In verbose mode white space and comments are skipped between the parts of a pattern. `gap` does that
wherever the grammar allows it.

## Main definitions

* `readEscape`: what follows a backslash.
* `readClass`: what follows an opening bracket.
* `readCount`: what follows an opening brace.
* `Expr.read`: a whole pattern.
-/

namespace Unscramble.Pattern

open Unscramble.Text

/-! ### Gaps and digits -/

/-- Skip white space and comments, which run from `#` to the end of the line. -/
def skipGap : (inComment : Bool) → List Char → List Char
  | _, [] => []
  | true, c :: r => skipGap (c != '\n') r
  | false, c :: r =>
    if isBlank c then skipGap false r else if c == '#' then skipGap true r else c :: r

/-- Skip white space and comments in verbose mode. -/
def gap (verbose : Bool) (s : List Char) : List Char :=
  if verbose then skipGap false s else s

/-- Whether a character always stands for itself after a backslash because it has a meaning of its
own without one. -/
def isMeta (c : Char) : Bool :=
  c ∈ ['\\', '.', '+', '*', '?', '(', ')', '|', '[', ']', '{', '}', '^', '$', '#', '&', '-', '~']

/-- Whether a character stands for itself after a backslash. -/
def isEscapable (c : Char) : Bool :=
  isMeta c || (c.toNat < 0x80 && !c.isAlphanum && c != '<' && c != '>')

/-- Read the decimal digits at the start of the text, which gaps may separate. -/
def readDigits (verbose : Bool) : (fuel : Nat) → List Char → List Char × List Char
  | 0, s => ([], s)
  | _ + 1, [] => ([], [])
  | fuel + 1, c :: r =>
    if c.isDigit then
      let (ds, rest) := readDigits verbose fuel (gap verbose r)
      (c :: ds, rest)
    else ([], c :: r)

/-- Counts are below two to the thirty-second. -/
def countLimit : Nat := Nat.pow 2 32

/-- Read a count, which white space may surround; `none` if it has no digits. -/
def readNumber (verbose : Bool) (s : List Char) : Except PatternError ((Option Nat) × List Char) :=
  let s := trimLeft s
  let (ds, rest) := readDigits verbose s.length s
  let rest := trimLeft rest
  if ds.isEmpty then .ok (none, rest)
  else
    let n := Nat.ofDigitChars 10 ds 0
    if n < countLimit then .ok (some n, rest) else .error .countTooLarge

/-! ### Escapes -/

/-- What a backslash and the characters after it stand for. -/
inductive Atom
  | char (c : Char)
  | byte (n : Nat)
  | assertion (a : Assertion)
  | cls (c : ClassExpr)

/-- The character of a code point. -/
def charOf (n : Nat) : Except PatternError Char :=
  if n.isValidChar then .ok (Char.ofNat n) else .error .notACharacter

/-- Read exactly `count` hexadecimal digits, given the value of those before. -/
def readHexDigits (verbose : Bool) : (count value : Nat) → List Char →
    Except PatternError (Nat × List Char)
  | 0, value, s => .ok (value, s)
  | _ + 1, _, [] => .error .unfinishedEscape
  | count + 1, value, c :: r =>
    match Hex.digit? c with
    | some d => readHexDigits verbose count (value * 16 + d) (gap verbose r)
    | none => .error (.badHexDigit c)

/-- Read hexadecimal digits up to a closing brace. -/
def readHexBrace (verbose : Bool) : (fuel : Nat) → (digits : List Char) → List Char →
    Except PatternError (Nat × List Char)
  | 0, _, _ => .error .unfinishedEscape
  | fuel + 1, digits, s =>
    match gap verbose s with
    | [] => .error .unfinishedEscape
    | '}' :: r =>
      match Hex.value? digits.reverse with
      | some n => .ok (n, gap verbose r)
      | none => .error .emptyHex
    | c :: r =>
      if (Hex.digit? c).isSome then readHexBrace verbose fuel (c :: digits) r
      else .error (.badHexDigit c)

/-- Read what follows `\x`, `\u` or `\U`: as many digits as the letter asks for, or any number in
braces. -/
def readHex (verbose : Bool) (digits : Nat) (s : List Char) :
    Except PatternError (Atom × List Char) := do
  match gap verbose s with
  | [] => .error .unfinishedEscape
  | '{' :: r =>
    let (n, rest) ← readHexBrace verbose (r.length + 1) [] r
    return (.char (← charOf n), rest)
  | s =>
    let (n, rest) ← readHexDigits verbose digits 0 s
    if digits = 2 then return (.byte n, rest)
    else return (.char (← charOf n), rest)

/-- Read the name of a property up to its closing brace. -/
def readPropertyName (verbose : Bool) : (fuel : Nat) → (name : List Char) → List Char →
    Except PatternError ((List Char) × List Char)
  | 0, _, _ => .error .unfinishedEscape
  | fuel + 1, name, s =>
    match gap verbose s with
    | [] => .error .unfinishedEscape
    | '}' :: r => .ok (name.reverse, r)
    | c :: r => readPropertyName verbose fuel (c :: name) r

/-- Read what follows `\p` or `\P`: one letter, or a name in braces. -/
def readProperty (verbose negated : Bool) (s : List Char) :
    Except PatternError (Atom × List Char) := do
  match gap verbose s with
  | [] => .error .unfinishedEscape
  | '{' :: r =>
    let (name, rest) ← readPropertyName verbose (r.length + 1) [] r
    return (.cls (.property negated name), rest)
  | '\\' :: _ => .error (.unknownProperty ['\\'])
  | c :: r => return (.cls (.property negated [c]), gap verbose r)

/-- A character that the name of a word edge consists of. -/
def isEdgeChar (c : Char) : Bool :=
  c.isAlpha || c == '-'

/-- Read the letters of a word edge's name. -/
def readEdgeName (verbose : Bool) : (fuel : Nat) → List Char → List Char × List Char
  | 0, s => ([], s)
  | _ + 1, [] => ([], [])
  | fuel + 1, c :: r =>
    if isEdgeChar c then
      let (name, rest) := readEdgeName verbose fuel (gap verbose r)
      (c :: name, rest)
    else ([], c :: r)

/-- Read what follows `\b`. A brace with a letter or a `-` after it names a word edge; any other
brace is left for a counted repetition. -/
def readEdge (verbose : Bool) (s : List Char) : Except PatternError (Atom × List Char) :=
  match s with
  | '{' :: r =>
    match gap verbose r with
    | [] => .error .unclosedEdge
    | c :: r =>
      if isEdgeChar c then
        let (name, rest) := readEdgeName verbose (r.length + 1) (c :: r)
        match rest with
        | '}' :: rest =>
          match String.ofList name with
          | "start" => .ok (.assertion .wordStart, rest)
          | "end" => .ok (.assertion .wordStop, rest)
          | "start-half" => .ok (.assertion .wordStartHalf, rest)
          | "end-half" => .ok (.assertion .wordStopHalf, rest)
          | _ => .error .unknownEdge
        | _ => .error .unclosedEdge
      else .ok (.assertion .edge, s)
  | _ => .ok (.assertion .edge, s)

/-- Read what follows a backslash. -/
def readEscape (verbose : Bool) : List Char → Except PatternError (Atom × List Char)
  | [] => .error .unfinishedEscape
  | c :: r =>
    if c.isDigit then .error .backReference
    else if isEscapable c then .ok (.char c, r)
    else
      match c with
      | 'x' => readHex verbose 2 r
      | 'u' => readHex verbose 4 r
      | 'U' => readHex verbose 8 r
      | 'p' => readProperty verbose false r
      | 'P' => readProperty verbose true r
      | 'd' => .ok (.cls (.letter false .digit), r)
      | 's' => .ok (.cls (.letter false .blank), r)
      | 'w' => .ok (.cls (.letter false .word), r)
      | 'D' => .ok (.cls (.letter true .digit), r)
      | 'S' => .ok (.cls (.letter true .blank), r)
      | 'W' => .ok (.cls (.letter true .word), r)
      | 'a' => .ok (.char '\x07', r)
      | 'f' => .ok (.char '\x0C', r)
      | 't' => .ok (.char '\t', r)
      | 'n' => .ok (.char '\n', r)
      | 'r' => .ok (.char '\r', r)
      | 'v' => .ok (.char '\x0B', r)
      | 'A' => .ok (.assertion .textStart, r)
      | 'z' => .ok (.assertion .textStop, r)
      | 'b' => readEdge verbose r
      | 'B' => .ok (.assertion .noEdge, r)
      | '<' => .ok (.assertion .wordStart, r)
      | '>' => .ok (.assertion .wordStop, r)
      | c => .error (.unknownEscape c)

/-! ### Classes -/

/-- Read a named ASCII class such as `[:alpha:]`, given what follows its bracket. The text is
something else if the colons, the bracket or the name are missing. -/
def readAscii? (s : List Char) : Option (ClassExpr × List Char) :=
  match s with
  | ':' :: r =>
    let (negated, r) := match r with
      | '^' :: r => (true, r)
      | r => (false, r)
    let name := r.takeWhile (· != ':')
    match r.drop name.length with
    | ':' :: ']' :: rest => (AsciiClass.ofName? name).map fun c ↦ (.ascii negated c, rest)
    | _ => none
  | _ => none

/-- Read one member of a class, which may turn out to start a range. -/
def readMember (verbose : Bool) : List Char → Except PatternError (Atom × List Char)
  | '\\' :: r => readEscape verbose r
  | c :: r => .ok (.char c, r)
  | [] => .error .unclosedClass

/-- A member as a class. -/
def Atom.toClass : Atom → Except PatternError ClassExpr
  | char c => .ok (.char c)
  | byte n => .ok (.char (Char.ofNat n))
  | cls c => .ok c
  | assertion _ => .error .conditionInClass

/-- A member as the end of a range. -/
def Atom.toEnd : Atom → Except PatternError Char
  | char c => .ok c
  | byte n => .ok (Char.ofNat n)
  | _ => .error .rangeOfClass

/-- Read a member or a range of a class. A `-` before the closing bracket or another `-` starts no
range. -/
def readRange (verbose : Bool) (s : List Char) : Except PatternError (ClassExpr × List Char) := do
  let (first, rest) ← readMember verbose s
  match gap verbose rest with
  | [] => .error .unclosedClass
  | '-' :: r =>
    match gap verbose r with
    | [] => .error .unclosedClass
    | c :: r' =>
      if c == ']' || c == '-' then return (← first.toClass, '-' :: r)
      else
        let (last, rest) ← readMember verbose (c :: r')
        let low ← first.toEnd
        let high ← last.toEnd
        if low ≤ high then return (.range low high, rest) else .error .rangeReversed
  | rest => return (← first.toClass, rest)

/-- The `-` signs at the start of a class, which stand for themselves. -/
def readDashes (verbose : Bool) : (fuel : Nat) → ClassExpr → List Char →
    Except PatternError (ClassExpr × List Char)
  | 0, c, s => .ok (c, s)
  | fuel + 1, c, s =>
    match s with
    | '-' :: r =>
      match gap verbose r with
      | [] => .error .unclosedClass
      | s => readDashes verbose fuel (.union c (.char '-')) s
    | s => .ok (c, s)

/-- Read the start of a class: whether it is negated, and the signs that stand for themselves only
there. -/
def readClassStart (verbose : Bool) (s : List Char) :
    Except PatternError ((Bool × ClassExpr) × List Char) := do
  let opened (s : List Char) : Except PatternError (List Char) :=
    match gap verbose s with
    | [] => .error .unclosedClass
    | s => .ok s
  let s ← opened s
  let (negated, s) ← match s with
    | '^' :: r => do
      let r ← opened r
      pure (true, r)
    | s => pure (false, s)
  let (members, s) ← readDashes verbose s.length .empty s
  match members, s with
  | .empty, ']' :: r => return ((negated, .char ']'), ← opened r)
  | _, s => return ((negated, members), s)

/-- The class so far: an operator that waits for its right side, and the members read since. -/
def combine (waiting : Option (ClassExpr × ClassOp)) (members : ClassExpr) : ClassExpr :=
  match waiting with
  | some (left, op) => .binary op left members
  | none => members

/-- Read the members of a class up to its closing bracket. -/
def readMembers (verbose : Bool) : (fuel : Nat) → (negated : Bool) →
    (waiting : Option (ClassExpr × ClassOp)) → (members : ClassExpr) → List Char →
    Except PatternError (ClassExpr × List Char)
  | 0, _, _, _, _ => .error .unclosedClass
  | fuel + 1, negated, waiting, members, s =>
    match gap verbose s with
    | [] => .error .unclosedClass
    | ']' :: r => .ok (.bracket negated (combine waiting members), r)
    | '[' :: r =>
      match readAscii? r with
      | some (c, rest) => readMembers verbose fuel negated waiting (.union members c) rest
      | none => do
        let ((inner, start), r) ← readClassStart verbose r
        let (c, rest) ← readMembers verbose fuel inner none start r
        readMembers verbose fuel negated waiting (.union members c) rest
    | '&' :: '&' :: r =>
      readMembers verbose fuel negated (some (combine waiting members, .inter)) .empty r
    | '-' :: '-' :: r =>
      readMembers verbose fuel negated (some (combine waiting members, .diff)) .empty r
    | '~' :: '~' :: r =>
      readMembers verbose fuel negated (some (combine waiting members, .symDiff)) .empty r
    | s => do
      let (c, rest) ← readRange verbose s
      readMembers verbose fuel negated waiting (.union members c) rest

/-- Read a class, given what follows its opening bracket. -/
def readClass (verbose : Bool) (s : List Char) : Except PatternError (ClassExpr × List Char) := do
  let ((negated, start), r) ← readClassStart verbose s
  readMembers verbose (r.length + 1) negated none start r

/-! ### Repetitions -/

/-- How often a part is repeated. -/
structure Count where
  least : Nat
  most : Option Nat

/-- Read whether a repetition is greedy: a `?` makes it lazy. -/
def readGreed : List Char → Bool × List Char
  | '?' :: r => (false, r)
  | s => (true, s)

/-- A count that must be there. -/
def needCount : Option Nat → Except PatternError Nat
  | some n => .ok n
  | none => .error .missingCount

/-- Read the counts between the braces of a counted repetition. -/
def readCounts (verbose : Bool) (s : List Char) : Except PatternError (Count × List Char) := do
  let (low, rest) ← readNumber verbose (gap verbose s)
  match rest with
  | [] => .error .unclosedCount
  | ',' :: r =>
    match gap verbose r with
    | [] => .error .unclosedCount
    | '}' :: r => return (⟨← needCount low, none⟩, '}' :: r)
    | r =>
      let low ← needCount low
      let (high, rest) ← readNumber verbose r
      return (⟨low, some (← needCount high)⟩, rest)
  | rest =>
    let low ← needCount low
    return (⟨low, some low⟩, rest)

/-- Read a counted repetition, given what follows its opening brace. -/
def readCount (verbose : Bool) (s : List Char) :
    Except PatternError ((Count × Bool) × List Char) := do
  let (count, rest) ← readCounts verbose s
  match rest with
  | '}' :: r =>
    let (greedy, rest) := readGreed (gap verbose r)
    if count.most.all (count.least ≤ ·) then return ((count, greedy), rest)
    else .error .countsReversed
  | _ => .error .unclosedCount

/-! ### Groups -/

/-- Read a list of switches up to `)` or `:`, which is not consumed. `minus` says whether a `-` was
read, and `dangling` whether it was the last character. -/
def readSwitches (sofar : Switches) : (minus dangling : Bool) → List Char →
    Except PatternError (Switches × List Char)
  | _, _, [] => .error .unclosedSwitches
  | minus, dangling, c :: r =>
    if c == ':' || c == ')' then
      if dangling then .error .danglingMinus else .ok (sofar, c :: r)
    else if c == '-' then
      if minus then .error (.repeatedSwitch '-') else readSwitches sofar true true r
    else
      match Switch.ofLetter? c with
      | none => .error (.unknownSwitch c)
      | some x =>
        if x ∈ sofar.on ∨ x ∈ sofar.off then .error (.repeatedSwitch c)
        else
          let sofar := if minus then { sofar with off := sofar.off ++ [x] }
            else { sofar with on := sofar.on ++ [x] }
          readSwitches sofar minus false r

/-- A letter of any script. -/
def isLetter (c : Char) : Bool :=
  if c.toNat < 0x80 then c.isAlpha else letterRanges.has c

/-- A letter or a number of any script. -/
def isLetterOrNumeral (c : Char) : Bool :=
  if c.toNat < 0x80 then c.isAlphanum else letterRanges.has c || numeralRanges.has c

/-- Read the name of a group up to its closing angle. -/
def readGroupName : (name : List Char) → List Char → Except PatternError ((List Char) × List Char)
  | _, [] => .error .unclosedGroupName
  | name, c :: r =>
    if c == '>' then
      if name.isEmpty then .error .emptyGroupName else .ok (name.reverse, r)
    else if c == '_' || isLetter c ||
        (!name.isEmpty && (c == '.' || c == '[' || c == ']' || isLetterOrNumeral c)) then
      readGroupName (c :: name) r
    else .error (.badGroupName c)

/-- What an opening parenthesis starts. -/
inductive GroupStart
  /-- A capturing group, perhaps with a name. -/
  | capture (name : Option (List Char))
  /-- A group that switches options within. -/
  | switched (s : Switches)
  /-- No group but switches for what follows. -/
  | switches (s : Switches)

/-- Read what follows an opening parenthesis. -/
def readGroupStart (verbose : Bool) (s : List Char) :
    Except PatternError (GroupStart × List Char) := do
  match gap verbose s with
  | '?' :: '=' :: _ | '?' :: '!' :: _ | '?' :: '<' :: '=' :: _ | '?' :: '<' :: '!' :: _ =>
    .error .lookAround
  | '?' :: 'P' :: '<' :: r | '?' :: '<' :: r =>
    let (name, rest) ← readGroupName [] r
    return (.capture (some name), rest)
  | '?' :: r =>
    if r.isEmpty then .error .unclosedGroup
    else
      let (switches, rest) ← readSwitches ⟨[], []⟩ false false r
      match rest with
      | ')' :: rest =>
        if switches.on.isEmpty && switches.off.isEmpty then .error .nothingToRepeat
        else return (.switches switches, rest)
      | rest => return (.switched switches, rest.drop 1)
  | r => return (.capture none, r)

/-! ### The main loop -/

/-- An open group: what it is, the mode to return to, and the parts and alternatives before it. -/
structure Frame where
  kind : GroupKind
  verbose : Bool
  parts : List Expr
  branches : List Expr

/-- Where reading stands. Parts and alternatives are kept latest first. -/
structure ReadState where
  verbose : Bool
  parts : List Expr
  branches : List Expr
  open_ : List Frame
  groups : Nat
  names : List (List Char × Nat)

namespace ReadState

/-- Add a part. -/
def push (st : ReadState) (e : Expr) : ReadState :=
  { st with parts := e :: st.parts }

/-- The pattern that the parts and alternatives of the innermost group make up. -/
def finish (st : ReadState) : Expr :=
  .alts ((Expr.cats st.parts.reverse :: st.branches).reverse)

/-- Repeat the last part. -/
def repeatLast (st : ReadState) (count : Count) (greedy : Bool) :
    Except PatternError ReadState :=
  match st.parts with
  | [] | .empty :: _ | .switches _ :: _ => .error .nothingToRepeat
  | e :: es => .ok { st with parts := .loop count.least count.most greedy e :: es }

/-- Open a group. -/
def openGroup (st : ReadState) (kind : GroupKind) (verbose : Bool) : ReadState :=
  { st with
    verbose := verbose
    parts := []
    branches := []
    open_ := ⟨kind, st.verbose, st.parts, st.branches⟩ :: st.open_ }

/-- Close the innermost group. -/
def closeGroup (st : ReadState) : Except PatternError ReadState :=
  match st.open_ with
  | [] => .error .unopenedGroup
  | f :: fs =>
    .ok { st with
      verbose := f.verbose
      parts := .group f.kind st.finish :: f.parts
      branches := f.branches
      open_ := fs }

/-- Give the next index to a capturing group. -/
def nextGroup (st : ReadState) (name : Option (List Char)) : Except PatternError ReadState :=
  let index := st.groups + 1
  match name with
  | none => .ok { st with groups := index }
  | some name =>
    if st.names.any (·.1 == name) then .error (.repeatedGroupName name)
    else .ok { st with groups := index, names := st.names ++ [(name, index)] }

/-- Read one part, operator or parenthesis, which starts with `c`. -/
def step (st : ReadState) (c : Char) (r : List Char) :
    Except PatternError (ReadState × List Char) := do
  match c with
  | '(' =>
    let (start, rest) ← readGroupStart st.verbose r
    match start with
    | .capture name =>
      let st ← st.nextGroup name
      return (st.openGroup (.capture st.groups) st.verbose, rest)
    | .switched s =>
      return (st.openGroup (.switched s) ((s.state? .verbose).getD st.verbose), rest)
    | .switches s =>
      let st := st.push (.switches s)
      return ({ st with verbose := (s.state? .verbose).getD st.verbose }, rest)
  | ')' => return (← st.closeGroup, r)
  | '|' =>
    return ({ st with parts := [], branches := Expr.cats st.parts.reverse :: st.branches }, r)
  | '[' =>
    let (c, rest) ← readClass st.verbose r
    return (st.push (.cls c), rest)
  | '?' =>
    let (greedy, rest) := readGreed r
    return (← st.repeatLast ⟨0, some 1⟩ greedy, rest)
  | '*' =>
    let (greedy, rest) := readGreed r
    return (← st.repeatLast ⟨0, none⟩ greedy, rest)
  | '+' =>
    let (greedy, rest) := readGreed r
    return (← st.repeatLast ⟨1, none⟩ greedy, rest)
  | '{' =>
    let _ ← st.repeatLast ⟨0, none⟩ true
    let ((count, greedy), rest) ← readCount st.verbose r
    return (← st.repeatLast count greedy, rest)
  | '\\' =>
    let (atom, rest) ← readEscape st.verbose r
    return (st.push (match atom with
      | .char c => .char c
      | .byte n => .byte n
      | .assertion a => .assertion a
      | .cls c => .cls c), rest)
  | '.' => return (st.push .dot, r)
  | '^' => return (st.push (.assertion .caret), r)
  | '$' => return (st.push (.assertion .dollar), r)
  | c => return (st.push (.char c), r)

/-- Read to the end of the text. -/
def readAll : (fuel : Nat) → ReadState → List Char → Except PatternError ReadState
  | 0, st, _ => .ok st
  | fuel + 1, st, s =>
    match gap st.verbose s with
    | [] => .ok st
    | c :: r => do
      let (st, rest) ← st.step c r
      readAll fuel st rest

end ReadState

/-- A pattern as written, with the names of its groups. -/
structure Written where
  expr : Expr
  names : List (List Char × Nat)

/-- How deeply a pattern may be nested. -/
def depthLimit : Nat := 250

/-- Read a pattern. -/
def Written.read (s : List Char) : Except PatternError Written := do
  let st ← ReadState.readAll (s.length + 1) ⟨false, [], [], [], 0, []⟩ s
  if !st.open_.isEmpty then .error .unclosedGroup
  else
    let expr := st.finish
    if depthLimit < expr.depth false false then .error .tooDeep
    else return ⟨expr, st.names⟩

end Unscramble.Pattern

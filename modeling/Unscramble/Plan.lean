import Unscramble.Failure
import Unscramble.Pattern.Basic
import Unscramble.Text.Split

/-!
# Plans

A plan is the list of helper calls that the entry routine makes between splitting the signature and
joining it again. In the script it is a text of statements, separated by `;`, each of which contains
a call `object.helper(token, number)`; blank statements count for nothing.

## Main definitions

* `Plan`: a non-empty list of calls.
* `statements`: the trimmed, non-blank statements of a text.
* `CallParts.find?`: the parts of the leftmost call in a statement.
* `Plan.read`: the plan of a text.
* `objectName`: the object that the first statement calls its helper on.
-/

namespace Unscramble

open Unscramble.Text

/-- One step of a plan: which helper is called, and with which number. -/
structure Call where
  helper : String
  argument : Nat
  deriving DecidableEq, Repr

/-- Calls in the order in which they are made; a plan has at least one. -/
structure Plan where
  steps : List Call
  steps_ne_nil : steps ≠ []

/-- Numbers of calls are below two to the sixty-fourth: no token is longer. -/
def argumentLimit : Nat := Nat.pow 2 64

/-- The plan of a list of calls; an empty list means that no plan was found. -/
def Plan.ofList (steps : List Call) : Except Failure Plan :=
  if h : steps = [] then .error (.notFound .planText) else .ok ⟨steps, h⟩

/-- The statements of a plan text: its pieces between `;`, trimmed, without the blank ones. -/
def statements (text : List Char) : List (List Char) :=
  ((pieces (· == ';') text).map trim).filter fun s ↦ !s.isEmpty

/-- The template of a call. It captures the object, the helper and the number. -/
def callTemplate : String := r"([\w$]+)\.([\w$]+)\(\s*[\w$]+\s*,\s*(\d+)\s*\)"

/-- The pattern of a call. -/
def callPattern : Except Pattern.PatternError Pattern :=
  Pattern.read callTemplate.toList

/-- The parts of a call as written. -/
structure CallParts where
  object : List Char
  helper : List Char
  digits : List Char

/-- The parts of the leftmost call in a statement. -/
def CallParts.read (statement : List Char) : Except Failure CallParts :=
  match callPattern with
  | .error e => .error (.badPattern e)
  | .ok pattern =>
    let parts := do
      let place ← pattern.find? statement
      return ⟨← place.captured? 1, ← place.captured? 2, ← place.captured? 3⟩
    match parts with
    | some parts => .ok parts
    | none => .error (.malformed .tooFewFields (String.ofList statement))

/-- The number that ASCII digits stand for, if it is in range. -/
def argument? (digits : List Char) : Option Nat :=
  if digits.all Char.isDigit && !digits.isEmpty then
    let n := Nat.ofDigitChars 10 digits 0
    if n < argumentLimit then some n else none
  else none

/-- Read one statement as a call. -/
def Call.read (statement : List Char) : Except Failure Call := do
  let parts ← CallParts.read statement
  match argument? parts.digits with
  | some n => return ⟨String.ofList parts.helper, n⟩
  | none => .error (.malformed .notAnInteger (String.ofList statement))

/-- Read a plan: every statement must be a call, and there must be one. -/
def Plan.read (text : List Char) : Except Failure Plan := do
  Plan.ofList (← (statements text).mapM Call.read)

/-- The object that the first statement calls its helper on. -/
def objectName (text : List Char) : Except Failure (List Char) :=
  match statements text with
  | [] => .error (.notFound .planText)
  | s :: _ => (CallParts.read s).map CallParts.object

end Unscramble

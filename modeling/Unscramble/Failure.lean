import Unscramble.Move
import Unscramble.Pattern.Error
import Unscramble.Text.Quoted

/-!
# What can go wrong with a script

The failures of finding, reading and running a plan, their wording, and the four groups that callers
tell apart. Which group a failure belongs to does not depend on the script or the token, so none of
them goes away by trying again.
-/

namespace Unscramble

/-- What is looked for in a script. -/
inductive Stage
  /-- The name of the routine that unscrambles a signature. -/
  | entryName
  /-- The statements of that routine. -/
  | planText
  /-- The object that holds its helpers. -/
  | tableText
  deriving DecidableEq, Repr

/-- The words for a stage. -/
def Stage.name : Stage → String
  | entryName => "entry name"
  | planText => "plan text"
  | tableText => "table text"

/-- What is wrong with a fragment that was found. -/
inductive Malformed
  /-- A part that it must have is missing. -/
  | tooFewFields
  /-- Its number is no number, or one that no token position can have. -/
  | notAnInteger
  deriving DecidableEq, Repr

/-- The words for a malformation. -/
def Malformed.name : Malformed → String
  | tooFewFields => "too few fields"
  | notAnInteger => "not an integer"

/-- Why a script cannot be read or its plan not be run. -/
inductive Failure
  /-- Nothing in the script looks like what a stage is for. -/
  | notFound (stage : Stage)
  /-- A fragment was found that does not have the expected parts. -/
  | malformed (what : Malformed) (fragment : String)
  /-- A helper's body is none of the known moves. -/
  | unknownShape (body : String)
  /-- The plan calls a helper that the table lacks. -/
  | unknownHelper (name : String)
  /-- A move has no meaning on a token of that length. -/
  | outOfRange (range : OutOfRange)
  /-- The script holds nothing but white space. -/
  | emptyScript
  /-- A recognizer's template is no pattern. -/
  | badPattern (reason : Pattern.PatternError)
  deriving DecidableEq

namespace Failure

/-- The wording of a failure. -/
def message : Failure → String
  | notFound stage => s!"no known pattern matched the {stage.name}"
  | malformed what fragment => s!"malformed fragment ({what.name}): {Text.quoted fragment}"
  | unknownShape body => s!"helper body matches no known operation shape: {Text.quoted body}"
  | unknownHelper name => s!"plan references unknown helper `{name}`"
  | outOfRange r =>
    s!"{r.family.name} argument {r.argument} is out of range for a token of length {r.length}"
  | emptyScript => "script text is empty"
  | badPattern _ => "invalid recognizer pattern"

/-- Nothing was found where something was looked for. -/
def isMissing : Failure → Bool
  | notFound _ | emptyScript => true
  | _ => false

/-- Something was found, but not in the expected form. -/
def isMalformed : Failure → Bool
  | malformed _ _ => true
  | _ => false

/-- A helper's body is not one of the known moves. -/
def isUnclassified : Failure → Bool
  | unknownShape _ => true
  | _ => false

/-- The plan could not be run on a token. -/
def isOfRun : Failure → Bool
  | unknownHelper _ | outOfRange _ => true
  | _ => false

end Failure

end Unscramble

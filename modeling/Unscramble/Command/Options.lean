import Unscramble.Player.Settings
import Unscramble.Sink
import Unscramble.Text.Split

/-!
# Options of a run

What the command is asked to do: where the player script comes from, what is to be unscrambled with
it, and how much is told on the way.

## Main definitions

* `Origin`, `Input`, `Verbosity`: where scripts come from, what is unscrambled, how much is told.
* `Options`: all of it.
* `Input.of`: a text is a signature cipher if one of its fields is named `url`.
-/

namespace Unscramble.Command

open Unscramble.Text

/-- Where the player script comes from. -/
inductive Origin
  /-- A file. -/
  | file (path : List Char)
  /-- A URL. -/
  | url (url : List Char)
  /-- The player of a video, which is named by its id or by a page. -/
  | video (video : List Char)
  deriving DecidableEq

/-- Something that is to be unscrambled. -/
inductive Input
  /-- A signature cipher, of which a signed URL is made. -/
  | query (text : List Char)
  /-- A scrambled signature. -/
  | token (text : List Char)
  deriving DecidableEq

namespace Input

/-- What a text is: a signature cipher if a field between `&` begins with `url=`, and else a
signature. -/
def of (s : List Char) : Input :=
  if (pieces (· == '&') s).any ("url=".toList.isPrefixOf ·) then query s else token s

/-- The text as it was given. -/
def text : Input → List Char
  | query s | token s => s

@[simp] theorem text_of (s : List Char) : (of s).text = s := by
  unfold of
  split <;> rfl

end Input

/-- How much is told. -/
inductive Verbosity
  /-- Only errors. -/
  | quiet
  /-- Errors and what happens. -/
  | normal
  /-- Everything. -/
  | verbose
  deriving DecidableEq

/-- How important an entry must be at least to reach the log. -/
def Verbosity.logLevel : Verbosity → Level
  | quiet => .error
  | normal => .info
  | verbose => .debug

/-- What the command is asked to do. -/
structure Options where
  origin : Origin
  inputs : List Input
  /-- The file of a response whose streams are signed. -/
  info : Option (List Char)
  /-- Whether every decision is told. -/
  trace : Bool
  timeout : Timespan
  baseUrl : List Char
  userAgent : Option (List Char)
  verbose : Bool
  quiet : Bool

namespace Options

/-- Whether there is nothing to unscramble. -/
def hasNoInputs (o : Options) : Bool :=
  o.inputs.isEmpty && o.info.isNone

/-- How much is told: the wish for quiet wins. -/
def verbosity (o : Options) : Verbosity :=
  if o.quiet then .quiet else if o.verbose then .verbose else .normal

/-- The settings by which a player is asked. -/
def settings (o : Options) : Player.Settings :=
  { Player.Settings.usual with
    baseUrl := o.baseUrl
    timeout := o.timeout
    userAgent := o.userAgent.getD Player.Settings.usual.userAgent }

end Options

end Unscramble.Command

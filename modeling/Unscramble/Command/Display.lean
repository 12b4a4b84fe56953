import Unscramble.Command.Options
import Unscramble.Decision
import Unscramble.Media.Stream

/-!
# What is told

Results are told line by line on one channel, and everything else on another one. Each manner of
speaking has its mark, and a verbosity from which on it is heard; errors are always heard, and
results have neither mark nor condition.

## Main definitions

* `Said`: one thing that is told.
* `say`: tell something in a manner, if that is heard.
* `sayStream`, `sayTrail`, `saySummary`: what is told of a stream, of decisions and at the end.
-/

namespace Unscramble.Command

open Unscramble.Media

/-- Where something is told. -/
inductive Channel
  /-- Where results go. -/
  | result
  /-- Where everything else goes. -/
  | status
  deriving DecidableEq

/-- One thing that is told. -/
inductive Said
  /-- A line on a channel. -/
  | line (channel : Channel) (text : String)
  /-- How many signatures were unscrambled and how many could not be, and how long that took. -/
  | summary (signed refused : Nat)
  deriving DecidableEq

/-! ### Manners -/

/-- How something is told. -/
inductive Manner
  | info
  | success
  | warning
  | error
  | debug
  deriving DecidableEq

namespace Manner

/-- What stands before a text that is told. -/
def mark : Manner → String
  | info => "\u2139\ufe0f  "
  | success => "\u2705 "
  | warning => "\u26a0\ufe0f  "
  | error => "\u274c "
  | debug => "🐛 "

/-- Whether a manner is heard. -/
def isHeard (v : Verbosity) : Manner → Bool
  | info | success | warning => v != .quiet
  | error => true
  | debug => v == .verbose

end Manner

/-- Tell something, if its manner is heard. -/
def say (v : Verbosity) (manner : Manner) (text : String) : List Said :=
  if manner.isHeard v then [.line .status (manner.mark ++ text)] else []

/-- Tell a result. -/
def sayResult (text : List Char) : List Said :=
  [.line .result (String.ofList text)]

/-- Tell the address of a stream, and to those who hear everything the name of a file for it, if the
video is known. -/
def sayStream (v : Verbosity) (s : Stream) (video : List Char) : List Said :=
  .line .result s!"itag={s.itag} {String.ofList s.url}" ::
    if v = .verbose ∧ video ≠ [] then
      [.line .status s!"  📋 {String.ofList (s.fileName video)}"]
    else []

/-! ### Decisions -/

/-- A number, with blanks before it up to a width. -/
def aligned (width n : Nat) : String :=
  let digits := toString n
  String.ofList (List.replicate (width - digits.length) ' ') ++ digits

/-- Tell decisions, which are numbered from `n` on. -/
def sayTrailFrom : (n : Nat) → Trail → List Said
  | _, [] => []
  | n, d :: r => .line .status s!"🔎 {aligned 3 n}. {d.text}" :: sayTrailFrom (n + 1) r

/-- Tell decisions. -/
def sayTrail (t : Trail) : List Said :=
  sayTrailFrom 1 t

/-! ### The end -/

/-- A time in milliseconds as it is told: in milliseconds below a second, and else in minutes and
seconds that have passed. -/
def elapsedText (ms : Nat) : String :=
  let seconds := ms / 1000
  if ms < 1000 then s!"{ms}ms"
  else if seconds < 60 then s!"{seconds}s"
  else if seconds % 60 = 0 then s!"{seconds / 60}m"
  else s!"{seconds / 60}m {seconds % 60}s"

/-- A number of signatures. -/
def signatures (n : Nat) : String :=
  if n = 1 then s!"{n} signature" else s!"{n} signatures"

/-- Tell what became of all signatures, unless that is not heard. -/
def saySummary (v : Verbosity) (signed refused : Nat) : List Said :=
  if v = .quiet then [] else [.summary signed refused]

namespace Said

/-- Where something is told. -/
def channel : Said → Channel
  | line channel _ => channel
  | summary _ _ => .status

/-- The text of what is told, where `elapsed` tells how long everything took. -/
def text (elapsed : String) : Said → String
  | line _ text => text
  | summary signed 0 => s!"{Manner.success.mark}Deciphered {signatures signed} in {elapsed}"
  | summary signed refused =>
    s!"{Manner.warning.mark}Deciphered {signatures signed}, {refused} failed ({elapsed})"

end Said

end Unscramble.Command

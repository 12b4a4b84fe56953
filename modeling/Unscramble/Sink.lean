import Unscramble.Note

/-!
# Where notes go

Remarks always go to the log. Where decisions go is a choice: into memory, to the log like remarks,
or nowhere. The log has one entry per note that reaches it, in the order of the notes.

## Main definitions

* `Note.entry`: the log entry of a note.
* `Sink`: where decisions go.
* `Recorder`: a trail kept in memory.
-/

namespace Unscramble

/-- How important a log entry is. -/
inductive Level
  | debug
  | info
  | warning
  | error
  deriving DecidableEq, Repr

/-- What a level is called. -/
def Level.name : Level → String
  | debug => "debug"
  | info => "info"
  | warning => "warn"
  | error => "error"

/-- Which part of the library a log entry is about. -/
inductive Topic
  /-- The decisions of a trail. -/
  | trail
  /-- Helper tables. -/
  | helpers
  /-- Unscramblers. -/
  | unscrambler
  /-- Sessions. -/
  | session
  /-- Streams and responses. -/
  | media
  /-- Resolving responses. -/
  | resolver
  /-- Fetching player scripts. -/
  | player
  deriving DecidableEq, Repr

/-- A line of the log, with named values. -/
structure LogEntry where
  level : Level
  topic : Topic
  message : String
  fields : List (String × String)

/-- The title of a family in the log. -/
def Family.title : Family → String
  | reverse => "Reverse"
  | dropMiddle => "DropMiddle"
  | swapHead => "SwapHead"

/-- The title of a family that may be unknown. -/
def Family.titleOr : Option Family → String
  | some family => s!"Some({family.title})"
  | none => "None"

/-- The log entry of a decision. -/
def Decision.entry : Decision → LogEntry
  | tried stage index name matched =>
    ⟨.debug, .trail, "pattern tried", [("stage", stage.name), ("index", toString index),
      ("pattern", name), ("matched", toString matched)]⟩
  | classified helper family =>
    ⟨.debug, .trail, "helper classified", [("helper", helper), ("kind", Family.titleOr family)]⟩
  | ran index helper move before after =>
    ⟨.debug, .trail, "step applied", [("step", toString index), ("helper", helper),
      ("op", move.text), ("len_before", toString before), ("len_after", toString after)]⟩
  | failed index helper reason =>
    ⟨.debug, .trail, "step failed",
      [("step", toString index), ("helper", helper), ("reason", reason)]⟩

/-- A pause in milliseconds, in seconds from one second on and without trailing zeros. -/
def pauseText (ms : Nat) : String :=
  if ms < 1000 then s!"{ms}ms"
  else
    let digits := (toString (1000 + ms % 1000)).toList.drop 1
    let fraction := (digits.reverse.dropWhile (· == '0')).reverse
    if fraction.isEmpty then s!"{ms / 1000}s" else s!"{ms / 1000}.{String.ofList fraction}s"

/-- The log entry of a note. -/
def Note.entry : Note → LogEntry
  | decided d => d.entry
  | entryFound entry =>
    ⟨.debug, .unscrambler, "found signature entry routine", [("entry", entry)]⟩
  | planBuilt entry object steps helpers =>
    ⟨.debug, .unscrambler, "decipherer built", [("entry", entry), ("object", object),
      ("steps", toString steps), ("helpers", toString helpers)]⟩
  | helperRepeated helper earlier later =>
    ⟨.warning, .helpers, "helper defined twice, keeping the later one",
      [("helper", helper), ("previous", earlier.title), ("kind", later.title)]⟩
  | planReused fingerprint =>
    ⟨.debug, .session, "decipherer cache hit", [("fingerprint", fingerprint)]⟩
  | planWanted fingerprint bytes =>
    ⟨.info, .session, "building decipherer for player script",
      [("fingerprint", fingerprint), ("bytes", toString bytes)]⟩
  | streamSigned itag => ⟨.debug, .media, "format deciphered", [("itag", toString itag)]⟩
  | streamRefused itag reason =>
    ⟨.warning, .media, "failed to decipher format", [("itag", toString itag), ("error", reason)]⟩
  | responseResolved signed refused =>
    ⟨.info, .resolver, "resolved signatures",
      [("deciphered", toString signed), ("failed", toString refused)]⟩
  | pathFound path => ⟨.debug, .player, s!"Found player script path: {path}", []⟩
  | scriptReused url => ⟨.debug, .player, s!"Player script cache hit: {url}", []⟩
  | scriptFetched url bytes =>
    ⟨.debug, .player, s!"Fetched player script {url} ({bytes} bytes)", []⟩
  | requestRepeated url reason pause =>
    ⟨.warning, .player,
      s!"Request to {url} failed ({reason}), retrying in {pauseText pause}", []⟩

/-- Where decisions go. -/
inductive Sink
  /-- Into memory. -/
  | memory
  /-- To the log. -/
  | log
  /-- Nowhere. -/
  | nowhere
  deriving DecidableEq, Repr

namespace Sink

/-- The decisions that are kept in memory. -/
def kept (s : Sink) (notes : List Note) : Trail :=
  if s = memory then trail notes else []

/-- The entries that reach the log. -/
def logged (s : Sink) (notes : List Note) : List LogEntry :=
  (if s = log then notes else remarks notes).map Note.entry

end Sink

/-- A trail kept in memory. -/
structure Recorder where
  trail : Trail

namespace Recorder

/-- A recorder without decisions. -/
def empty : Recorder :=
  ⟨[]⟩

/-- Keep one more decision. -/
def record (r : Recorder) (d : Decision) : Recorder :=
  ⟨r.trail ++ [d]⟩

/-- Hand over all decisions and start afresh. -/
def take (r : Recorder) : Trail × Recorder :=
  (r.trail, empty)

end Recorder

end Unscramble

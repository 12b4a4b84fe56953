import Unscramble.Command.Run
import Unscramble.Player.Fetcher

/-!
# The command

Reads the files that the command line names, runs the command on them, and prints what it tells.
Nothing is decided here. No server is at hand: a script or a page at a URL is asked for, and no
answer comes.
-/

namespace Unscramble.Command

/-- Why a file could not be read. -/
def faultOf : IO.Error → FileFault
  | .noFileOrDirectory _ _ _ | .noSuchThing _ _ _ => .missing
  | .permissionDenied _ _ _ => .forbidden
  | .inappropriateType _ code _ => if code = 20 then .notDirectory else .isDirectory
  | e => .other (toString e)

/-- The text of the file at a path. -/
def readText (path : List Char) : IO (Except FileFault (List Char)) := do
  try
    let bytes ← IO.FS.readBinFile (String.ofList path)
    match String.fromUTF8? bytes with
    | some text => return .ok text.toList
    | none => return .error .notText
  catch e => return .error (faultOf e)

/-- The outcome of a command line. -/
def outcomeOf (words : List (List Char)) : IO Outcome := do
  match Line.read words with
  | .error stop => return stop.outcome
  | .ok options =>
    let texts ← options.paths.mapM fun path ↦ do return (path, ← readText path)
    let files : Files := fun path ↦ (texts.lookup path).getD (.error .missing)
    let silent : Player.Server Unit := fun _ s ↦ (s, .silence "error sending request")
    return run files (Player.Fetcher.source silent options.settings) (.new ()) options

end Unscramble.Command

open Unscramble.Command in
/-- The command with its command line, and the exit code. -/
def main (words : List String) : IO UInt32 := do
  let started ← IO.monoMsNow
  let outcome ← outcomeOf (words.map (·.toList))
  for said in outcome.said do
    let text := said.text (elapsedText ((← IO.monoMsNow) - started))
    match said.channel with
    | .result => IO.println text
    | .status => IO.eprintln text
  return outcome.exitCode

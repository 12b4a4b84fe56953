import Unscramble.Command.Display
import Unscramble.Command.Line
import Unscramble.Media.Response
import Unscramble.Resolver

/-!
# Running the command

The command learns the unscrambler of a player script, unscrambles its inputs one after another,
signs the streams of a response, and tells what became of all that. An input or a stream that cannot
be unscrambled does not keep the others from it; a script or a response that cannot be read ends the
run.

## Main definitions

* `Work`: what became of some signatures.
* `run`: a run with given options.
* `Stop.outcome`: a run whose command line stops early.

## Main statements

* `exitCode_fail`: a run that ends in a complaint is known as such by its exit code.
-/

namespace Unscramble.Command

open Unscramble.Media
open Unscramble.Player
open Unscramble.Text

/-- The texts of the files that a run may read. -/
abbrev Files := (path : List Char) → Except FileFault (List Char)

/-! ### Outcomes -/

/-- An error that ends a run: what did not work, and its causes, the nearest one first. -/
structure Complaint where
  text : String
  causes : List String
  deriving DecidableEq

namespace Complaint

/-- The complaint about an error. -/
def of (e : Error) : Complaint :=
  ⟨e.message, e.cause?.toList⟩

/-- The complaint that something did not work because of an error. -/
def because (text : String) (e : Error) : Complaint :=
  ⟨text, e.message :: e.cause?.toList⟩

/-- A text of which every line but the first has blanks before it. -/
def indented (width : Nat) (text : String) : String :=
  String.ofList (replaceAll ['\n'] ('\n' :: List.replicate width ' ') text.toList)

/-- The causes as they are told: numbered from `n` on, if there are several. -/
def sayCauses : (n : Nat) → List String → List Said
  | 0, [cause] => [.line .status s!"    {indented 4 cause}"]
  | _, [] => []
  | n, cause :: rest =>
    .line .status s!"{aligned 5 n}: {indented 7 cause}" :: sayCauses (n + 1) rest

/-- Tell a complaint. -/
def said (c : Complaint) : List Said :=
  .line .status s!"Error: {c.text}" ::
    if c.causes.isEmpty then []
    else .line .status "" :: .line .status "Caused by:" :: sayCauses 0 c.causes

end Complaint

/-- How a run ends: all that is told, in order, and the exit code. -/
structure Outcome where
  said : List Said
  exitCode : UInt32
  deriving DecidableEq

namespace Outcome

/-- A run that ends well. -/
def done (said : List Said) : Outcome :=
  ⟨said, 0⟩

/-- A run that ends in a complaint. -/
def fail (said : List Said) (c : Complaint) : Outcome :=
  ⟨said ++ c.said, 1⟩

theorem exitCode_fail (said : List Said) (c : Complaint) : (fail said c).exitCode = 1 := rfl

end Outcome

/-! ### The script -/

/-- The unscrambler of a run, and the id of the video whose script it is learnt from, if the script
was found by a video. -/
structure Loaded where
  unscrambler : Unscrambler
  video : Option (List Char)

variable {σ : Type}

/-- Learn from the script in a file. -/
def loadFile (files : Files) (path : List Char) : Attempt Complaint Loaded := do
  let name := String.ofList path
  let script ← .ofExcept <| (files path).mapError fun fault ↦
    .because s!"failed to read player script {name}" (.file fault)
  let learnt ← ((Session.new .standard).request script).2.mapError fun failure ↦
    ⟨s!"failed to understand player script {name}", [failure.message]⟩
  return ⟨learnt.unscrambler, none⟩

/-- Learn from the script at a URL, which is told before. -/
def loadUrl (v : Verbosity) (source : Source σ) (url : List Char) (video : Option (List Char))
    (r : Resolver σ) : List Said × Attempt Complaint Loaded :=
  let name := String.ofList url
  let learnt := (r.unscrambler source url).2.mapError
    (.because s!"failed to understand player script {name}")
  (say v .info s!"Using player script {name}", do return ⟨(← learnt).unscrambler, video⟩)

/-- Learn from the script that plays a video. -/
def loadVideo (v : Verbosity) (source : Source σ) (video : List Char) (r : Resolver σ) :
    List Said × Attempt Complaint Loaded :=
  match Video.idOf video with
  | .error fault => ([], .fail (.of (.ofVideo fault)))
  | .ok id =>
    let (r, url) := r.scriptUrl source id
    match url.outcome with
    | .error e =>
      let complaint := .because s!"failed to locate player script for {String.ofList id}" e
      ([], ⟨url.notes, .error complaint⟩)
    | .ok found =>
      let (said, loaded) := loadUrl v source found (some id) r
      (said, ⟨url.notes ++ loaded.notes, loaded.outcome⟩)

/-- Learn from the script that the options name. -/
def load (files : Files) (source : Source σ) (s : σ) (o : Options) :
    List Said × Attempt Complaint Loaded :=
  let resolver := ⟨s, .new .standard⟩
  match o.origin with
  | .file path => ([], loadFile files path)
  | .url url => loadUrl o.verbosity source url none resolver
  | .video video => loadVideo o.verbosity source video resolver

/-! ### Signatures -/

/-- What became of some signatures: what is told of them and was noted, how many were unscrambled
and how many could not be. -/
structure Work where
  said : List Said
  notes : List Note
  signed : Nat
  refused : Nat

namespace Work

/-- No work at all. -/
def none : Work :=
  ⟨[], [], 0, 0⟩

/-- Two pieces of work, the first of which comes first. -/
def append (a b : Work) : Work :=
  ⟨a.said ++ b.said, a.notes ++ b.notes, a.signed + b.signed, a.refused + b.refused⟩

instance : Append Work := ⟨append⟩

/-- The complaint about work that did not succeed throughout. -/
def complaint? (w : Work) : Option Complaint :=
  if w.refused = 0 then .none
  else some ⟨s!"{w.refused} of {w.signed + w.refused} signatures could not be deciphered", []⟩

end Work

/-- What an input becomes: a cipher a signed URL, and a token its signature. -/
def Input.unscramble (u : Unscrambler) : Input → Attempt Error (List Char)
  | query s => do (← .ofExcept (Cipher.read s)).sign u
  | token s => (u.runText s).mapError .script

/-- Unscramble an input. -/
def workOn (v : Verbosity) (u : Unscrambler) (input : Input) : Work :=
  let attempt := input.unscramble u
  match attempt.outcome with
  | .ok result => ⟨sayResult result, attempt.notes, 1, 0⟩
  | .error e =>
    ⟨say v .error s!"{String.ofList input.text}: {e.message}", attempt.notes, 0, 1⟩

/-- Unscramble inputs one after another. -/
def workOnAll (v : Verbosity) (u : Unscrambler) : List Input → Work
  | [] => .none
  | input :: rest => workOn v u input ++ workOnAll v u rest

/-- Sign the streams of a response. Those that have an address then are told, and those that could
not be signed. -/
def workOnResponse (v : Verbosity) (loaded : Loaded) (response : Response) : Work :=
  let signed := response.sign loaded.unscrambler
  let (after, report) := signed.result
  let own := after.details.videoId
  let video := if own.isEmpty then loaded.video.getD [] else own
  let addresses := (after.streams.filter (!·.needsSigning)).flatMap (sayStream v · video)
  let complaints := report.refused.flatMap fun (itag, e) ↦
    say v .error s!"itag={itag}: {e.message}"
  ⟨addresses ++ complaints, signed.notes, report.signed, report.refused.length⟩

/-- Sign the streams of the response in a file, if one is given. -/
def workOnFile (v : Verbosity) (files : Files) (loaded : Loaded) :
    Option (List Char) → Except Complaint Work
  | none => .ok .none
  | some path =>
    let name := String.ofList path
    match files path with
    | .error fault => .error ⟨s!"failed to read player response {name}", [fault.message]⟩
    | .ok text =>
      match Response.decoder.run text with
      | .error e => .error ⟨s!"failed to parse player response {name}", [e.message]⟩
      | .ok response => .ok (workOnResponse v loaded response)

/-! ### Runs -/

/-- Tell the decisions among notes, if that is wanted. -/
def sayNotes (o : Options) (notes : List Note) : List Said :=
  if o.trace then sayTrail (trail notes) else []

/-- How large a plan is and how many helpers there are. -/
def sizeText (u : Unscrambler) : String :=
  s!"{u.plan.steps.length} steps over {u.helpers.size} helpers"

/-- Unscramble what the options name, after `told` has been told. -/
def runLoaded (files : Files) (o : Options) (loaded : Loaded) (told : List Said) : Outcome :=
  let v := o.verbosity
  let tokens := workOnAll v loaded.unscrambler o.inputs
  match workOnFile v files loaded o.info with
  | .error c => .fail (told ++ tokens.said) c
  | .ok streams =>
    let work := tokens ++ streams
    let said := told ++ work.said ++ sayNotes o work.notes ++ saySummary v work.signed work.refused
    match work.complaint? with
    | none => .done said
    | some c => .fail said c

/-- A run with given options. -/
def run (files : Files) (source : Source σ) (s : σ) (o : Options) : Outcome :=
  let v := o.verbosity
  let (first, loading) := load files source s o
  let told := first ++ sayNotes o loading.notes
  match loading.outcome with
  | .error c => .fail told c
  | .ok loaded =>
    let size := sizeText loaded.unscrambler
    let told := told ++ say v .debug s!"Signature plan has {size}"
    if o.hasNoInputs then .done (told ++ say v .success s!"Player script understood: {size}")
    else runLoaded files o loaded told

/-! ### Command lines -/

/-- The name of the command. -/
def commandName : String :=
  "ryt-cipher"

/-- The version of the command. -/
def versionText : String :=
  s!"{commandName} 0.1.0"

/-- How the command is written. -/
def usageText : String :=
  s!"Usage: {commandName} [OPTIONS] <--script <PATH>|--player-url <URL>|--video <ID|URL>> " ++
    "[CIPHER]..."

/-- What the options do. -/
def helpLines : List String :=
  ["Decipher stream signatures using a video player script", "", usageText, "", "Arguments:",
    "  [CIPHER]...  signatureCipher fields or bare scrambled signatures", "", "Options:",
    s!"  {Setting.usage .script}: read the player script from a file",
    s!"  {Setting.usage .playerUrl}: fetch the player script from a URL",
    s!"  {Setting.usage .video}: find the player script by a video",
    s!"  {Setting.usage .info}: sign the streams of the player response in a file",
    "  --trace: tell every decision",
    s!"  {Setting.usage .timeout}: how long to wait for an answer, such as 30s or 1m",
    s!"  {Setting.usage .baseUrl}: where pages and relative script paths begin",
    s!"  {Setting.usage .userAgent}: how to introduce oneself",
    "  -v, --verbose: tell everything",
    "  -q, --quiet: tell only errors",
    "  -h, --help: tell this",
    "  -V, --version: tell the version"]

/-- What a command line that stops early leads to. A refusal has an exit code of its own. -/
def Stop.outcome : Stop → Outcome
  | help => .done (helpLines.map (.line .result))
  | version => .done [.line .result versionText]
  | refused refusal =>
    ⟨[.line .status s!"error: {refusal.message}", .line .status "", .line .status usageText], 2⟩

/-- The files that options name. -/
def Options.paths (o : Options) : List (List Char) :=
  (match o.origin with
    | .file path => [path]
    | .url _ | .video _ => []) ++ o.info.toList

end Unscramble.Command

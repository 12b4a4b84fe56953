import Unscramble.Player.Page
import Unscramble.Player.Source
import Unscramble.Store

/-!
# Fetching player scripts

A fetcher asks a server for pages and scripts. A request that fails in a way that may pass is
repeated, after a pause that doubles each time up to a limit, as often as the settings allow.
Scripts that were fetched are kept, and not asked for again.

## Main definitions

* `Server`: how a server answers.
* `delay`: how long to wait before a request is repeated.
* `fetchText`: the answer to a request with its repetitions.
* `Fetcher.source`: a fetcher as a source of scripts.
-/

namespace Unscramble.Player

/-- The answer to a request. -/
inductive Reply
  /-- A status, and a text if the status tells of success. -/
  | status (code : Nat) (body : List Char)
  /-- The answer took too long. -/
  | late (detail : String)
  /-- No answer came, or it broke off. -/
  | silence (detail : String)
  deriving DecidableEq

/-- How a server with a state of type `σ` answers a request for a URL. -/
abbrev Server (σ : Type) := (url : List Char) → σ → σ × Reply

/-- The statuses that tell of an error. -/
def isErrorStatus (code : Nat) : Bool :=
  400 ≤ code && code < 600

/-- How a URL is shown in an error: without its login. -/
def shown (url : List Char) : String :=
  match Url.read url with
  | .ok u => String.ofList u.withoutLogin.text
  | .error _ => String.ofList url

/-- The text that a reply to a request for `url` brings. -/
def Reply.text (url : List Char) : Reply → Except Error (List Char)
  | status code body =>
    if isErrorStatus code then .error (.download (.status code (shown url))) else .ok body
  | late detail => .error (.timeout detail)
  | silence detail => .error (.download (.unanswered detail))

/-- The URL that a request is sent to: one of the web, without its fragment. -/
def target? (url : List Char) : Option (List Char) :=
  match Url.read url with
  | .ok u =>
    if u.scheme = "http".toList ∨ u.scheme = "https".toList then
      some { u with fragment := none }.text
    else none
  | .error _ => none

/-! ### Pauses -/

/-- The first pause. -/
def firstPause : Timespan :=
  ⟨0, 200000000⟩

/-- The longest pause. -/
def longestPause : Timespan :=
  ⟨10, 0⟩

/-- A number doubled several times, as long as thirty-two bits hold it. -/
def doubled? : (times n : Nat) → Option Nat
  | 0, n => some n
  | times + 1, n => if 2 * n < Nat.pow 2 32 then doubled? times (2 * n) else none

/-- The first pause, doubled for each attempt so far. There is none if the factor takes more than
thirty-two bits, or the seconds of the product more than sixty-four. -/
def grownPause? (attempt : Nat) : Option Timespan := do
  firstPause.mul? (← doubled? attempt 1)

/-- How long to wait before a request is repeated. -/
def delay (attempt : Nat) : Timespan :=
  match grownPause? attempt with
  | some grown => grown.shorter longestPause
  | none => longestPause

/-- The pause before a request is repeated, in milliseconds. -/
def pause (attempt : Nat) : Nat :=
  (delay attempt).milliseconds

/-! ### Requests -/

variable {σ : Type}

/-- Why nothing can be sent to a text that is no URL of the web. -/
def sendFault (url : List Char) : DownloadFault :=
  match Url.read url with
  | .ok _ => .notWeb (shown url)
  | .error fault => .notUrl fault

/-- Send one request, if it is for a URL of the web. -/
def request (server : Server σ) (url : List Char) (s : σ) : σ × Except Error (List Char) :=
  match target? url with
  | none => (s, .error (.download (sendFault url)))
  | some target =>
    let (s, reply) := server target s
    (s, reply.text url)

/-- Send a request, and repeat it at most `retries` times while its error may pass. -/
def fetchFrom (server : Server σ) (url : List Char) :
    (retries attempt : Nat) → σ → σ × Attempt Error (List Char)
  | 0, _, s =>
    let (s, result) := request server url s
    (s, .ofExcept result)
  | retries + 1, attempt, s =>
    let (s, result) := request server url s
    match result with
    | .ok text => (s, pure text)
    | .error e =>
      if e.isTransient then
        let (s, later) := fetchFrom server url retries (attempt + 1) s
        let told := Note.requestRepeated (String.ofList url) e.message (pause attempt)
        (s, ⟨told :: later.notes, later.outcome⟩)
      else (s, .fail e)

/-- The text at a URL, with as many repetitions as the settings allow. -/
def fetchText (server : Server σ) (settings : Settings) (url : List Char) (s : σ) :
    σ × Attempt Error (List Char) :=
  fetchFrom server url settings.retries 0 s

/-! ### Fetchers -/

/-- The scripts that a fetcher keeps, and the state of its server. -/
structure Fetcher (σ : Type) where
  state : σ
  scripts : Store (List Char) (List Char)

namespace Fetcher

/-- A fetcher that keeps nothing yet. -/
def new (s : σ) : Fetcher σ :=
  ⟨s, .empty⟩

/-- The URL of the script that plays a video, by its page. -/
def scriptUrl (server : Server σ) (settings : Settings) (video : List Char) (f : Fetcher σ) :
    Fetcher σ × Attempt Error (List Char) :=
  let (s, page) := fetchText server settings (settings.embedUrl video) f.state
  ({ f with state := s }, do settings.scriptUrl (← page))

/-- The text of the script at a URL: the one kept, or else one that is fetched and kept. -/
def scriptText (server : Server σ) (url : List Char) (settings : Settings) (f : Fetcher σ) :
    Fetcher σ × Attempt Error (List Char) :=
  match f.scripts.get? url with
  | some text => (f, ⟨[.scriptReused (String.ofList url)], .ok text⟩)
  | none =>
    let (s, fetched) := fetchText server settings url f.state
    match fetched.outcome with
    | .error e => ({ f with state := s }, ⟨fetched.notes, .error e⟩)
    | .ok text =>
      let told := Note.scriptFetched (String.ofList url) (Text.Utf8.size text)
      (⟨s, f.scripts.insert url text⟩, ⟨fetched.notes ++ [told], .ok text⟩)

/-- A fetcher as a source of scripts. -/
def source (server : Server σ) (settings : Settings) : Source (Fetcher σ) where
  scriptUrl video := scriptUrl server settings video
  scriptText url := scriptText server url settings

end Fetcher

end Unscramble.Player

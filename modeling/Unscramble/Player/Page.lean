import Unscramble.Error
import Unscramble.Note
import Unscramble.Player.Settings

/-!
# Pages of a player

The page of a video names the script of its player, either as a quoted path that ends in `/base.js`
or as the value of `jsUrl` in a JSON text. The first form is preferred, wherever it stands.

## Main definitions

* `embedUrl`: the page of a video.
* `scriptUrl`: the script that a page names.
-/

namespace Unscramble.Player

open Unscramble.Text

/-- The text up to the next quote, if it is in quotes that a text begins with. -/
def quoted? (s : List Char) : Option (List Char) :=
  let inside := s.takeWhile (· != '"')
  if inside.length < s.length then some inside else none

/-- The end of a script's path. -/
def scriptEnd : List Char :=
  "/base.js".toList

/-- Whether a text in quotes is the path of a script: it begins with a slash, has no angle brackets,
and ends in `/base.js` behind that slash. -/
def isScriptPath : List Char → Bool
  | '/' :: r => scriptEnd.isSuffixOf r && !r.any (fun c ↦ c == '<' || c == '>')
  | _ => false

/-- The first path of a script in quotes. -/
def scriptPath? : List Char → Option (List Char)
  | [] => none
  | c :: r =>
    match if c = '"' then (quoted? r).filter isScriptPath else none with
    | some path => some path
    | none => scriptPath? r

/-- What stands before the value of `jsUrl`. -/
def jsUrlStart : List Char :=
  "\"jsUrl\":\"".toList

/-- The first value of `jsUrl` that is not empty. -/
def jsUrl? : List Char → Option (List Char)
  | [] => none
  | c :: r =>
    match (strip? jsUrlStart (c :: r)).bind fun rest ↦ (quoted? rest).filter (!·.isEmpty) with
    | some url => some url
    | none => jsUrl? r

/-- The base URL without slashes at its end. -/
def Settings.origin (s : Settings) : List Char :=
  (s.baseUrl.reverse.dropWhile (· == '/')).reverse

/-- A path as a URL: on the secure web if it begins with two slashes, at the base URL if it begins
with one, and as it stands otherwise. -/
def Settings.absolute (s : Settings) : List Char → List Char
  | '/' :: '/' :: r => "https://".toList ++ r
  | '/' :: r => s.origin ++ '/' :: r
  | path => path

/-- The page of a video. -/
def Settings.embedUrl (s : Settings) (video : List Char) : List Char :=
  s.origin ++ "/embed/".toList ++ video

/-- The script that a page names. Slashes that are escaped stand for slashes. -/
def Settings.scriptUrl (s : Settings) (page : List Char) : Attempt Error (List Char) :=
  match (scriptPath? page).or (jsUrl? page) with
  | none => .fail .noPlayer
  | some found => do
    let path := replaceAll ['\\', '/'] ['/'] found
    .note (.pathFound (String.ofList path))
    return s.absolute path

end Unscramble.Player

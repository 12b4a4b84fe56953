import Unscramble.Url.Basic
import Unscramble.Url.Escape

/-!
# Reading a path

A path that is divided into segments is walked through: `.` stays where it is, and `..` goes back by
one segment, but never past the drive at the beginning of a path such as `/C:/x`. What is left is
escaped.

In the path of a file, a drive may be written with `|`, and the slash behind it may be missing.
-/

namespace Unscramble.Url

open Unscramble.Text

/-- How the rest of a URL is laid out, which its scheme decides. -/
inductive Layout
  /-- There is a host, and slashes may lean to either side. -/
  | web
  /-- There is a path on a host or on no host. -/
  | file
  /-- There may be an authority, and the path may be undivided. -/
  | free
  deriving DecidableEq

/-- The layout under a scheme. -/
def Layout.of (scheme : List Char) : Layout :=
  if scheme = "file".toList then file
  else if ["http", "https", "ws", "wss", "ftp"].contains (String.ofList scheme) then web
  else free

/-- A character that divides segments. -/
def Layout.isSlash (layout : Layout) (c : Char) : Bool :=
  c == '/' || (c == '\\' && layout != free)

namespace Path

/-- A segment that stays where it is. -/
def staysHere (s : List Char) : Bool :=
  ["." , "%2e"].contains (String.ofList s).toLower

/-- A segment that goes back by one segment. -/
def goesBack (s : List Char) : Bool :=
  ["..", ".%2e", "%2e.", "%2e%2e"].contains (String.ofList s).toLower

/-- A segment that names a drive. -/
def isDrive : List Char → Bool
  | [a, b] => a.isAlpha && (b == ':' || b == '|')
  | _ => false

/-- A segment that is not gone back past. -/
def isHeld : List Char → Bool
  | a :: b :: r => a.isAlpha && (b == ':' || b == '|') && r.head?.all (· == '\\')
  | _ => false

/-- Go back by one segment; the segments so far are given from the last one on. -/
def back : List (List Char) → List (List Char)
  | [] => []
  | s :: r => if isHeld s then s :: r else r

/-- Go forward by one segment. At the beginning of the path of a file, a drive is set off. -/
def forward (layout : Layout) (done : List (List Char)) (s : List Char) : List (List Char) :=
  let escaped := Escape.escape Escape.inPath s
  if layout = .file ∧ done = [] then
    match escaped with
    | [a, b] => if isDrive [a, b] then [[a, ':']] else [escaped]
    | a :: ':' :: r => if a.isAlpha then [r, [a, ':']] else [escaped]
    | _ => [escaped]
  else escaped :: done

/-- Walk through raw segments; the segments so far are given from the last one on. A path that ends
in going back, or in staying, ends in a slash. -/
def walk (layout : Layout) : (done raw : List (List Char)) → List (List Char)
  | done, [] => done
  | done, s :: r =>
    let settle (d : List (List Char)) := if r.isEmpty then [] :: d else d
    if goesBack s then walk layout (settle (back done)) r
    else if staysHere s then walk layout (settle done) r
    else walk layout (forward layout done s) r

/-- Whether a walk comes to a drive at the beginning of the path. -/
def findsDrive (layout : Layout) : (done raw : List (List Char)) → Bool
  | _, [] => false
  | done, s :: r =>
    if goesBack s then findsDrive layout (back done) r
    else if staysHere s then findsDrive layout done r
    else (done.isEmpty && isDrive s) || findsDrive layout (forward layout done s) r

/-- Drop empty segments at the beginning, but not the only one that is left. -/
def dropEmpty : List (List Char) → List (List Char)
  | [] :: s :: r => dropEmpty (s :: r)
  | segments => segments

/-- The path that raw segments stand for. -/
def ofSegments (layout : Layout) (raw : List (List Char)) : Path :=
  let segments := (walk layout [] raw).reverse
  .divided (if layout = .file then dropEmpty segments else segments)

end Path

/-- The raw segments of a text. -/
def rawSegments (layout : Layout) (s : List Char) : List (List Char) :=
  pieces layout.isSlash s

/-- The raw segments of a text whose first slash only leads in. -/
def rawSegmentsAfterSlash (layout : Layout) : List Char → List (List Char)
  | [] => rawSegments layout []
  | c :: r => rawSegments layout (if layout.isSlash c then r else c :: r)

end Unscramble.Url

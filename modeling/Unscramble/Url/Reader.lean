import Unscramble.Text.Percent
import Unscramble.Url.Domain
import Unscramble.Url.Fault
import Unscramble.Url.Path

/-!
# Reading a URL

A text is cut into its parts from the outside: control characters and spaces around it and line
breaks and tabs in it are dropped, the scheme ends at the first colon, the fragment begins at the
first `#` after it, and the query at the first `?` before that. What is between the scheme and the
query is read by the layout of the scheme.

## Main definitions

* `Url.read`: the URL that a text is, or what is wrong with it.
-/

namespace Unscramble.Url

open Unscramble.Text

/-! ### Cutting -/

/-- Drop what is passed over in a URL. -/
def clean (s : List Char) : List Char :=
  let outer (c : Char) : Bool := c ≤ ' '
  let inner := ((s.dropWhile outer).reverse.dropWhile outer).reverse
  inner.filter fun c ↦ c != '\t' && c != '\n' && c != '\r'

/-- A character that a scheme may go on with. -/
def isSchemeChar (c : Char) : Bool :=
  c.isAlphanum || c == '+' || c == '-' || c == '.'

/-- The scheme in lower case, and what follows its colon. -/
def scheme? (s : List Char) : Option (List Char × List Char) :=
  match splitFirst? ':' s with
  | some (scheme, rest) =>
    if scheme.head?.any Char.isAlpha && scheme.all isSchemeChar then
      some (scheme.map Char.toLower, rest)
    else none
  | none => none

/-- Cut off what follows the first `c`. -/
def cutAt (c : Char) (s : List Char) : List Char × Option (List Char) :=
  match splitFirst? c s with
  | some (a, b) => (a, some b)
  | none => (s, none)

/-- Cut at the last `c`, which belongs to neither part. -/
def splitLast? (c : Char) (s : List Char) : Option (List Char × List Char) :=
  (splitFirst? c s.reverse).map fun (b, a) ↦ (a.reverse, b.reverse)

/-! ### Hosts -/

/-- The address in brackets that a text is, if it begins with a bracket. -/
def bracketed? (s : List Char) : Option (Except Fault Host) :=
  match s with
  | '[' :: r =>
    some <|
      if r.getLast? = some ']' then
        match Ipv6.read? r.dropLast with
        | some address => .ok (.six address)
        | none => .error .ipv6
      else .error .ipv6
  | _ => none

/-- The host under a scheme that uses domain names. -/
def Host.ofDomain (s : List Char) : Except Fault Host :=
  match bracketed? s with
  | some host => host
  | none =>
    match Domain.read? s with
    | none => .error .domain
    | some [] => .error .emptyHost
    | some domain =>
      if Ipv4.looksLike domain then
        match Ipv4.read? domain with
        | some address => .ok (.four address)
        | none => .error .ipv4
      else .ok (.name domain)

/-- A character that no host has, under any scheme. -/
def isForbiddenInHost (c : Char) : Bool :=
  "\x00\t\n\r #/:<>?@[\\]^|".toList.contains c

/-- The host under any other scheme. -/
def Host.ofText (s : List Char) : Except Fault Host :=
  match bracketed? s with
  | some host => host
  | none =>
    if s.any isForbiddenInHost then .error .hostCharacter
    else if s.isEmpty then .ok .unnamed
    else .ok (.name (Escape.escape Escape.inOpaque s))

/-! ### Authorities -/

/-- Cut before the first colon that is not in brackets. -/
def cutHost (inside : Bool) : List Char → List Char × List Char
  | [] => ([], [])
  | c :: r =>
    if c = ':' ∧ !inside then ([], c :: r)
    else
      let (a, b) := cutHost (if c = '[' then true else if c = ']' then false else inside) r
      (c :: a, b)

/-- The port that a scheme uses unless another is named. -/
def usualPort? (scheme : List Char) : Option Nat :=
  [("http", 80), ("ws", 80), ("https", 443), ("wss", 443), ("ftp", 21)].lookup
    (String.ofList scheme)

/-- The port at the beginning of a text, and what follows its digits. The usual port is not kept. -/
def readPort (scheme s : List Char) : Except Fault (Option UInt16 × List Char) :=
  let digits := s.takeWhile Char.isDigit
  let rest := s.dropWhile Char.isDigit
  let port := Nat.ofDigitChars 10 digits 0
  if !rest.head?.all (fun c ↦ c == '/' || c == '\\') || 65535 < port then .error .port
  else if digits.isEmpty || usualPort? scheme = some port then .ok (none, rest)
  else .ok (some port.toUInt16, rest)

/-- The user name and the password that a text names. -/
def readLogin (s : List Char) : List Char × List Char :=
  let (username, password) := cutAt ':' s
  (Escape.escape Escape.inLogin username, Escape.escape Escape.inLogin (password.getD []))

/-- The login at the beginning of an authority, and what follows it. `closed` tells that the URL
goes on after the authority, so that nothing can be missing there but a host. -/
def splitLogin (closed : Bool) (s : List Char) :
    Except Fault ((List Char × List Char) × List Char) :=
  match splitLast? '@' s with
  | none => .ok (([], []), s)
  | some ([], []) => if closed then .error .emptyHost else .ok (([], []), [])
  | some (login, rest) => .ok (readLogin login, rest)

/-- The authority that a text is, and the part of it that belongs to the path. -/
def readAuthority (layout : Layout) (scheme : List Char) (closed : Bool) (s : List Char) :
    Except Fault (Authority × List Char) := do
  let ((username, password), place) ← splitLogin closed s
  let (hostText, portText) := cutHost false place
  if layout = .web ∧ hostText = [] then throw .emptyHost
  let host ← if layout = .free then Host.ofText hostText else Host.ofDomain hostText
  if host = .unnamed ∧ !portText.isEmpty then throw .emptyHost
  let (port, rest) ← match portText with
    | [] => pure (none, [])
    | _ :: digits => readPort scheme digits
  if host = .unnamed ∧ !(username.isEmpty && password.isEmpty) then throw .emptyHost
  return (⟨username, password, host, port⟩, rest)

/-! ### Layouts -/

/-- An authority and a path. -/
abbrev Body := Option Authority × Path

/-- Read what follows the scheme of the web. Any number of slashes lead in. -/
def readWeb (scheme : List Char) (closed : Bool) (s : List Char) : Except Fault Body := do
  let slash := Layout.web.isSlash
  let s := s.dropWhile slash
  let path := s.dropWhile (!slash ·)
  let (authority, _) ← readAuthority .web scheme (closed || !path.isEmpty) (s.takeWhile (!slash ·))
  return (some authority, .ofSegments .web (rawSegmentsAfterSlash .web path))

/-- Read what follows a scheme without rules of its own. -/
def readFree (scheme : List Char) (closed : Bool) (s : List Char) : Except Fault Body := do
  match s with
  | '/' :: '/' :: r =>
    let path := r.dropWhile (· != '/')
    let (authority, stray) ←
      readAuthority .free scheme (closed || !path.isEmpty) (r.takeWhile (· != '/'))
    let path := stray ++ path
    return (some authority, if path.isEmpty then .divided []
      else .ofSegments .free (rawSegmentsAfterSlash .free path))
  | '/' :: r => return (none, .ofSegments .free (rawSegments .free r))
  | _ => return (none, .undivided (Escape.escape Escape.inOpaque s))

/-- The host of a file, and the raw segments of its path, after two slashes. The segments of a path
that no host precedes begin with an empty one, unless a drive stands in the place of the host. -/
def readFileHost (s : List Char) : Except Fault (Host × List (List Char)) := do
  let slash := Layout.file.isSlash
  let hostText := s.takeWhile (!slash ·)
  let path := s.dropWhile (!slash ·)
  if Path.isDrive hostText then return (.unnamed, rawSegments .file s)
  if hostText.isEmpty then return (.unnamed, rawSegments .file path)
  let host ← Host.ofDomain hostText
  if host = .name "localhost".toList then return (.unnamed, rawSegments .file path)
  return (host, rawSegmentsAfterSlash .file path)

/-- Read what follows the scheme of files. A drive at the beginning of the path takes the place of
the host. -/
def readFile (s : List Char) : Except Fault Body := do
  let slash := Layout.file.isSlash
  let (host, raw) ← match s with
    | a :: b :: r =>
      if slash a && slash b then readFileHost r
      else pure (.unnamed, rawSegmentsAfterSlash .file s)
    | _ => pure (.unnamed, rawSegmentsAfterSlash .file s)
  let host := if Path.findsDrive .file [] raw then .unnamed else host
  return (some ⟨[], [], host, none⟩, .ofSegments .file raw)

/-- The URL that a text is. -/
def read (s : List Char) : Except Fault Url :=
  match scheme? (clean s) with
  | none => .error .noScheme
  | some (scheme, rest) => do
    let layout := Layout.of scheme
    let (rest, fragment) := cutAt '#' rest
    let (body, query) := cutAt '?' rest
    let closed := query.isSome || fragment.isSome
    let (authority, path) ← match layout with
      | .web => readWeb scheme closed body
      | .free => readFree scheme closed body
      | .file => readFile body
    let inQuery := if layout = .free then Escape.inQuery else Escape.inWebQuery
    return ⟨scheme, authority, path, query.map (Escape.escape inQuery),
      fragment.map (Escape.escape Escape.inFragment)⟩

end Unscramble.Url

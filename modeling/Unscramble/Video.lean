import Unscramble.Text.Blank
import Unscramble.Url.Reader

/-!
# Video ids

A video is named by an id of eleven characters, or by the URL of a page that shows it. A page of the
short host has the id as its path, and a page of a long host has it in the query of its watch page,
or behind one of three path prefixes.

## Main definitions

* `Video.isId`: whether a text is an id as it stands.
* `Video.idOf`: the id that a text names.
-/

namespace Unscramble.Video

open Unscramble.Text

/-- A character of an id. -/
def isIdChar (c : Char) : Bool :=
  c.isAlphanum || c == '-' || c == '_'

/-- Whether a text is an id as it stands. -/
def isId (s : List Char) : Bool :=
  s.length == 11 && s.all isIdChar

/-- Why a text names no video. -/
inductive Fault
  /-- It is neither an id nor a URL. -/
  | notUrl (fault : Url.Fault)
  /-- The path of a page of the short host is empty. -/
  | noId
  /-- A watch page has no `v` in its query. -/
  | noQueryId
  /-- Nothing follows the prefix of the path. -/
  | noPathId (path : List Char)
  /-- It is another page of a long host. -/
  | otherPage
  /-- It is a page of another host. -/
  | otherHost
  deriving DecidableEq

/-- The host whose pages have the id as their path. -/
def shortHost : List Char :=
  "youtu.be".toList

/-- The hosts of watch pages. -/
def longHosts : List (List Char) :=
  ["youtube.com".toList, "www.youtube.com".toList, "m.youtube.com".toList]

/-- The path prefixes that an id may follow. -/
def idPrefixes : List (List Char) :=
  ["/shorts/".toList, "/embed/".toList, "/v/".toList]

/-- The id in a page of the short host. -/
def shortId (path : List Char) : Except Fault (List Char) :=
  match path.dropWhile (· == '/') with
  | [] => .error .noId
  | id => .ok id

/-- The id in a page of a long host. -/
def longId (u : Url) : Except Fault (List Char) :=
  let path := u.path.text
  if ("/watch".toList).isPrefixOf path then
    match Form.lookup? ['v'] u.pairs with
    | some id => .ok id
    | none => .error .noQueryId
  else
    match idPrefixes.findSome? (strip? · path) with
    | some rest =>
      match rest.takeWhile (· != '/') with
      | [] => .error (.noPathId path)
      | id => .ok id
    | none => .error .otherPage

/-- The id in a URL. -/
def idOfUrl (u : Url) : Except Fault (List Char) :=
  match u.host? with
  | none => .error .otherHost
  | some host =>
    if host = shortHost then shortId u.path.text
    else if longHosts.contains host then longId u
    else .error .otherHost

/-- The id that a text names. White space around it does not matter. -/
def idOf (s : List Char) : Except Fault (List Char) :=
  let s := trim s
  if isId s then .ok s
  else
    match Url.read s with
    | .ok u => idOfUrl u
    | .error fault => .error (.notUrl fault)

end Unscramble.Video

import Unscramble.Text.Form
import Unscramble.Url.Ipv4
import Unscramble.Url.Ipv6

/-!
# URLs

A URL in its parts, each part as it is written: escaped where it has to be, and in no other spelling
than the one that is chosen for it. `Url.text` puts the parts together.

## Main definitions

* `Url`: the parts of a URL.
* `Url.text`: its written form.
* `Url.pairs`: what its query says, as a form.
* `Url.append`: the URL with one more pair in its query.

## Main statements

* `query_append`: the pair goes behind the query.
-/

namespace Unscramble

open Unscramble.Text

namespace Url

/-- The host of an authority. -/
inductive Host
  /-- No host is named. -/
  | unnamed
  /-- A host with a name. -/
  | name (text : List Char)
  /-- A host with an address of four bytes. -/
  | four (address : Ipv4)
  /-- A host with an address of eight pieces. -/
  | six (address : Ipv6)
  deriving DecidableEq

/-- The written form of a host. -/
def Host.text : Host → List Char
  | unnamed => []
  | name text => text
  | four address => address.text
  | six address => '[' :: address.text ++ [']']

/-- Who is asked for what a URL names, and as whom. -/
structure Authority where
  username : List Char
  password : List Char
  host : Host
  port : Option UInt16
  deriving DecidableEq

/-- The written form of a user name and a password. -/
def loginText (username password : List Char) : List Char :=
  if username.isEmpty && password.isEmpty then []
  else username ++ (if password.isEmpty then [] else ':' :: password) ++ ['@']

/-- The written form of an authority. -/
def Authority.text (a : Authority) : List Char :=
  loginText a.username a.password ++ a.host.text ++
    (match a.port with
      | none => []
      | some port => ':' :: (toString port.toNat).toList)

/-- Whether a part of a login stands for a text. -/
def standsForText (part : List Char) : Bool :=
  (Utf8.decode? (Percent.decode (Utf8.encode part))).isSome

/-- The authority without its login. One that stands for no text is left: a user name, or a password
that comes without one. -/
def Authority.withoutLogin (a : Authority) : Authority :=
  if standsForText a.username && (!a.username.isEmpty || standsForText a.password) then
    { a with username := [], password := [] }
  else a

/-- The path of a URL. -/
inductive Path
  /-- A text that is not divided into segments. -/
  | undivided (text : List Char)
  /-- Segments with a slash before each. -/
  | divided (segments : List (List Char))
  deriving DecidableEq

/-- The written form of a path. -/
def Path.text : Path → List Char
  | undivided text => text
  | divided segments => segments.flatMap ('/' :: ·)

end Url

/-- A URL in its parts. -/
structure Url where
  scheme : List Char
  authority : Option Url.Authority
  path : Url.Path
  query : Option (List Char)
  fragment : Option (List Char)
  deriving DecidableEq

namespace Url

/-- The text between scheme and path. A path with an empty first segment is kept from being read as
an authority. -/
def authorityText (authority : Option Authority) (path : Path) : List Char :=
  match authority with
  | some a => '/' :: '/' :: a.text
  | none => if ['/', '/'].isPrefixOf path.text then ['/', '.'] else []

/-- A part that may be missing, behind the character that begins it. -/
def optional (lead : Char) : Option (List Char) → List Char
  | none => []
  | some part => lead :: part

/-- The written form of a URL. -/
def text (u : Url) : List Char :=
  u.scheme ++ ':' :: authorityText u.authority u.path ++ u.path.text ++ optional '?' u.query ++
    optional '#' u.fragment

/-- The URL without its login. -/
def withoutLogin (u : Url) : Url :=
  { u with authority := u.authority.map Authority.withoutLogin }

/-- The host of a URL, if one is named. -/
def host? (u : Url) : Option (List Char) :=
  match u.authority with
  | none => none
  | some a => if a.host = .unnamed then none else some a.host.text

/-- The pairs of a URL's query. -/
def pairs (u : Url) : List (List Char × List Char) :=
  Form.decodePairs (u.query.getD [])

/-- A query with one more pair at its end. -/
def appendPair (query : Option (List Char)) (pair : List Char × List Char) : List Char :=
  match query with
  | none | some [] => Form.encodePair pair
  | some q => q ++ '&' :: Form.encodePair pair

/-- The URL with one more pair at the end of its query. -/
def append (u : Url) (pair : List Char × List Char) : Url :=
  { u with query := some (appendPair u.query pair) }

@[simp] theorem query_append (u : Url) (pair : List Char × List Char) :
    (u.append pair).query = some (appendPair u.query pair) := rfl

end Url

end Unscramble

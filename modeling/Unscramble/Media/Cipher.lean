import Unscramble.Error
import Unscramble.Unscrambler

/-!
# Signature ciphers

A stream whose address lacks its signature comes with a *cipher* instead: a form with the scrambled
token `s`, the address `url`, and the query key `sp` that the unscrambled token goes under.

## Main definitions

* `Cipher.read`: the cipher that a form holds.
* `Cipher.sign`: the address with the unscrambled token in its query.
-/

namespace Unscramble.Media

open Unscramble.Text

/-- A scrambled token and the address that it belongs to. -/
structure Cipher where
  token : List Char
  key : List Char
  url : List Char
  deriving DecidableEq

namespace Cipher

/-- The query key of a token whose form names none. -/
def usualKey : List Char :=
  "signature".toList

/-- The cipher that a form holds. -/
def read (form : List Char) : Except Error Cipher :=
  match Form.value? form ['s'] with
  | none => .error (.missingField "s")
  | some token =>
    match Form.value? form "url".toList with
    | none => .error (.missingField "url")
    | some url =>
      match Form.value? form "sp".toList with
      | none | some [] => .ok ⟨token, usualKey, url⟩
      | some key => .ok ⟨token, key, url⟩

end Cipher

/-- The text of a URL with one more pair in its query. -/
def appendPair (url key value : List Char) : Except Error (List Char) :=
  match Url.read url with
  | .ok u => .ok (u.append (key, value)).text
  | .error fault => .error (.url fault)

/-- The address with the unscrambled token in its query. The address is read only after the token is
unscrambled. -/
def Cipher.sign (c : Cipher) (u : Unscrambler) : Attempt Error (List Char) := do
  let token ← (u.runText c.token).mapError .script
  .ofExcept (appendPair c.url c.key token)

end Unscramble.Media

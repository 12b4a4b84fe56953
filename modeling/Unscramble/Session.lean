import Unscramble.Digest.Sha256
import Unscramble.Store
import Unscramble.Unscrambler

/-!
# Sessions

A session remembers the unscrambler of every script that it has read, by the script's fingerprint,
so that each script is read once. Scripts that cannot be read are not remembered, and are tried
again.

An unscrambler of a session has a *serial*, the number of unscramblers that the session had read
before it. Serials are never used again, also not after a reset: two answers of a session with one
serial are the same unscrambler, read once.

## Main definitions

* `Fingerprint.of`: the SHA-256 digest of a script.
* `Session.request`: the unscrambler of a script, read on first demand.
* `Session.get?`, `Session.knows`, `Session.reset`: look without reading, and forget.
-/

namespace Unscramble

open Unscramble.Text

/-- The SHA-256 digest of a script's text. -/
structure Fingerprint where
  bytes : List UInt8
  deriving DecidableEq

namespace Fingerprint

/-- The fingerprint of a script. -/
def of (script : List Char) : Fingerprint :=
  ⟨Digest.Sha256.digest (Utf8.encode script)⟩

/-- The fingerprint in hexadecimal. -/
def text (f : Fingerprint) : String :=
  String.ofList (f.bytes.flatMap Hex.lowerByte)

end Fingerprint

/-- An unscrambler that a session has read, with its serial. -/
structure Learnt where
  serial : Nat
  unscrambler : Unscrambler

/-- What a session remembers: the unscramblers read since the last reset, and how many have been
read in all. -/
structure Session where
  lookups : Lookups
  known : Store Fingerprint Learnt
  reads : Nat

namespace Session

/-- A session that has read nothing yet. -/
def new (lookups : Lookups) : Session :=
  ⟨lookups, .empty, 0⟩

/-- The unscrambler of the script with a fingerprint, if it is remembered. -/
def get? (s : Session) (f : Fingerprint) : Option Learnt :=
  s.known.get? f

/-- Whether the unscrambler of a script is remembered. -/
def knows (s : Session) (script : List Char) : Bool :=
  (s.get? (.of script)).isSome

/-- Forget every unscrambler. -/
def reset (s : Session) : Session :=
  { s with known := .empty }

/-- Remember a new unscrambler. -/
def remember (s : Session) (f : Fingerprint) (u : Unscrambler) : Session :=
  { s with known := s.known.insert f ⟨s.reads, u⟩, reads := s.reads + 1 }

/-- The unscrambler of a script: the remembered one, or else a new one, which is remembered from
then on. -/
def request (s : Session) (script : List Char) : Session × Attempt Failure Learnt :=
  let f := Fingerprint.of script
  match s.get? f with
  | some learnt => (s, ⟨[.planReused f.text], .ok learnt⟩)
  | none =>
    let reading := Unscrambler.read s.lookups script
    let notes := .planWanted f.text (Utf8.size script) :: reading.notes
    match reading.outcome with
    | .ok u => (s.remember f u, ⟨notes, .ok ⟨s.reads, u⟩⟩)
    | .error e => (s, ⟨notes, .error e⟩)

end Session

end Unscramble

import Unscramble.Text.Hex
import Unscramble.Text.Split

/-!
# Addresses of four bytes

A host whose last part is a number is such an address. It has up to four parts between full stops,
each in decimal, in octal after a `0`, or in hexadecimal after `0x`. All parts but the last stand
for one byte; the last fills the bytes that are left, so that `127.1` is `127.0.0.1`. One full stop
may end the address.
-/

namespace Unscramble.Url

open Unscramble.Text

/-- An address of four bytes. -/
structure Ipv4 where
  value : UInt32
  deriving DecidableEq

namespace Ipv4

/-- The value of digits below `base`; `none` if there is another character. -/
def digits? (base : Nat) (s : List Char) : Option Nat :=
  s.foldlM (fun n c ↦ match Hex.digit? c with
    | some d => if d < base then some (n * base + d) else none
    | none => none) 0

/-- The number that one part stands for: hexadecimal after `0x`, octal after a `0` with more after
it, and else decimal. A lone `0x` is zero. -/
def number? : List Char → Option Nat
  | [] => none
  | '0' :: 'x' :: r | '0' :: 'X' :: r => digits? 16 r
  | '0' :: c :: r => digits? 8 (c :: r)
  | s => digits? 10 s

/-- The parts of a host, without the empty part after a final full stop. -/
def parts (host : List Char) : List (List Char) :=
  let ps := pieces (· == '.') host
  if 1 < ps.length ∧ ps.getLast? = some [] then ps.dropLast else ps

/-- Whether a host must be read as an address: its last part is a number. A part that consists of
digits is one even if they are not octal. -/
def looksLike (host : List Char) : Bool :=
  match (parts host).getLast? with
  | none | some [] => false
  | some part => part.all Char.isDigit || (number? part).isSome

/-- The value of an address's parts: bytes, and a number that fills the remaining bytes. -/
def combine? : (room : Nat) → List Nat → Option Nat
  | _, [] => none
  | room, [n] => if n < 256 ^ room then some n else none
  | 0, _ :: _ :: _ => none
  | room + 1, n :: m :: r =>
    if n < 256 then (combine? room (m :: r)).map (n * 256 ^ room + ·) else none

/-- The address that a host is, where it must be one. -/
def read? (host : List Char) : Option Ipv4 := do
  let numbers ← (parts host).mapM number?
  if 4 < numbers.length then none
  return ⟨(← combine? 4 numbers).toUInt32⟩

/-- An address as four decimal numbers. -/
def text (a : Ipv4) : List Char :=
  let n := a.value.toNat
  ['.'].intercalate ([n / 0x1000000, n / 0x10000 % 0x100, n / 0x100 % 0x100, n % 0x100].map
    fun b ↦ (toString b).toList)

end Ipv4

end Unscramble.Url

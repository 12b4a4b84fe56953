import Unscramble.Text.Percent

/-!
# What is escaped where

Each part of a URL has its own set of characters that are written as percent triplets. In every part
these are at least the characters outside printable ASCII; the parts differ in which printable
characters join them. A `%` is never escaped, so that a triplet stays a triplet.

## Main definitions

* `escape`: a text with its bytes escaped, but for those that are plain.
-/

namespace Unscramble.Url.Escape

open Unscramble.Text

/-- A byte that is written as itself where `excluded` are the printable characters that are not. -/
def isPlain (excluded : List Char) (b : UInt8) : Bool :=
  let c := Char.ofNat b.toNat
  (' ' ≤ c && c ≤ '~') && !excluded.contains c

/-- Escape a text where `excluded` are the printable characters to escape. -/
def escape (excluded s : List Char) : List Char :=
  Percent.encode (isPlain excluded) s

/-- The printable characters that are escaped in a fragment. -/
def inFragment : List Char := [' ', '"', '<', '>', '\x60']

/-- The printable characters that are escaped in a path. -/
def inPath : List Char := inFragment ++ ['#', '?', '{', '}']

/-- The printable characters that are escaped in a user name or a password. -/
def inLogin : List Char := inPath ++ ['/', ':', ';', '=', '@', '[', '\\', ']', '^', '|']

/-- The printable characters that are escaped in a query. -/
def inQuery : List Char := [' ', '"', '#', '<', '>']

/-- The printable characters that are escaped in a query under a scheme of the web. -/
def inWebQuery : List Char := inQuery ++ ['\'']

/-- No printable character is escaped in an opaque host or an opaque path. -/
def inOpaque : List Char := []

end Unscramble.Url.Escape

import Unscramble.Text.Percent
import Unscramble.Text.Split

/-!
# Form encoding

Lists of key and value pairs as `application/x-www-form-urlencoded` text: pairs are joined by `&`,
key and value by `=`, a space is a `+`, and every other byte outside letters, digits and `*-._` is a
percent triplet.

Reading accepts any text. Empty pieces between `&` are no pairs, a piece without `=` is a key with
an empty value, and bytes that are not UTF-8 are read as replacement characters.
-/

namespace Unscramble.Text.Form

/-- A byte that is written as itself: an ASCII letter or digit, or one of `*-._`. -/
def isPlain (b : UInt8) : Bool :=
  let c := Char.ofNat b.toNat
  c.isAlphanum || c == '*' || c == '-' || c == '.' || c == '_'

/-- The written form of one byte. -/
def encodeByte (b : UInt8) : List Char :=
  if b = 0x20 then ['+'] else if isPlain b then [Char.ofNat b.toNat] else Percent.triplet b

/-- The written form of a key or a value. -/
def encode (s : List Char) : List Char :=
  (Utf8.encode s).flatMap encodeByte

/-- The key or value that a written form stands for. -/
def decode (s : List Char) : List Char :=
  Utf8.decodeLossy (Percent.decode ((Utf8.encode s).map fun b ↦ if b = 0x2B then 0x20 else b))

/-- The written form of one pair. -/
def encodePair (pair : List Char × List Char) : List Char :=
  encode pair.1 ++ '=' :: encode pair.2

/-- The written form of a list of pairs. -/
def encodePairs (pairs : List (List Char × List Char)) : List Char :=
  ['&'].intercalate (pairs.map encodePair)

/-- The pair that one piece of a query holds. -/
def decodePair (piece : List Char) : List Char × List Char :=
  match splitFirst? '=' piece with
  | some (key, value) => (decode key, decode value)
  | none => (decode piece, [])

/-- The pairs of a query, in order. -/
def decodePairs (query : List Char) : List (List Char × List Char) :=
  ((pieces (· == '&') query).filter fun piece ↦ !piece.isEmpty).map decodePair

/-- The value of the first pair with the given key. -/
def lookup? (key : List Char) (pairs : List (List Char × List Char)) : Option (List Char) :=
  (pairs.find? fun pair ↦ pair.1 == key).map (·.2)

/-- The value of the first pair with the given key in a query, which may be led by any number of
`?`. -/
def value? (query key : List Char) : Option (List Char) :=
  lookup? key (decodePairs (query.dropWhile (· == '?')))

end Unscramble.Text.Form

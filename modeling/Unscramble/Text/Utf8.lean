/-!
# UTF-8

A text as bytes and back. Writing is total. Reading comes in two forms: `decode?` refuses bytes that
are not UTF-8, and `decodeLossy` puts one replacement character for each maximal malformed part, so
that a truncated character counts once and reading goes on at the byte that broke it off.

Both forms come from one walk over the bytes, `scan`, whose state is the character in progress: how
many bytes it still needs, what it has collected, and the range its next byte must lie in. The range
is what excludes overlong forms, surrogates and code points past the last one.

## Main statements

* `encodeChar_ne_nil`: every character has at least one byte.
-/

namespace Unscramble.Text.Utf8

/-- The bytes of one character. -/
def encodeChar (c : Char) : List UInt8 :=
  let n := c.toNat
  if n < 0x80 then [n.toUInt8]
  else if n < 0x800 then [(0xC0 + n / 0x40).toUInt8, (0x80 + n % 0x40).toUInt8]
  else if n < 0x10000 then
    [(0xE0 + n / 0x1000).toUInt8, (0x80 + n / 0x40 % 0x40).toUInt8, (0x80 + n % 0x40).toUInt8]
  else
    [(0xF0 + n / 0x40000).toUInt8, (0x80 + n / 0x1000 % 0x40).toUInt8,
      (0x80 + n / 0x40 % 0x40).toUInt8, (0x80 + n % 0x40).toUInt8]

/-- The bytes of a text. -/
def encode (s : List Char) : List UInt8 :=
  s.flatMap encodeChar

/-- The number of bytes of a text. -/
def size (s : List Char) : Nat :=
  (encode s).length

theorem encodeChar_ne_nil (c : Char) : encodeChar c ≠ [] := by
  simp only [encodeChar]
  split
  · simp
  · split
    · simp
    · split <;> simp

/-- A character whose first bytes have been read: `more` bytes are to come, `value` holds the bits
so far, and the next byte must lie between `low` and `high`. -/
structure Partial where
  more : Nat
  value : Nat
  low : Nat
  high : Nat

/-- What a byte begins. -/
inductive Lead
  /-- A character of one byte. -/
  | whole (c : Char)
  /-- A character of several bytes. -/
  | opening (p : Partial)
  /-- No character begins so. -/
  | stray

/-- What the byte `b` begins. -/
def lead (b : UInt8) : Lead :=
  let n := b.toNat
  if n < 0x80 then .whole (Char.ofNat n)
  else if 0xC2 ≤ n ∧ n ≤ 0xDF then .opening ⟨1, n - 0xC0, 0x80, 0xBF⟩
  else if n = 0xE0 then .opening ⟨2, 0, 0xA0, 0xBF⟩
  else if n = 0xED then .opening ⟨2, 0xD, 0x80, 0x9F⟩
  else if 0xE1 ≤ n ∧ n ≤ 0xEF then .opening ⟨2, n - 0xE0, 0x80, 0xBF⟩
  else if n = 0xF0 then .opening ⟨3, 0, 0x90, 0xBF⟩
  else if 0xF1 ≤ n ∧ n ≤ 0xF3 then .opening ⟨3, n - 0xF0, 0x80, 0xBF⟩
  else if n = 0xF4 then .opening ⟨3, 4, 0x80, 0x8F⟩
  else .stray

/-- Read bytes as characters, with `none` for each maximal malformed part. -/
def scan : Option Partial → List UInt8 → List (Option Char)
  | none, [] => []
  | some _, [] => [none]
  | none, b :: r =>
    match lead b with
    | .whole c => some c :: scan none r
    | .opening p => scan (some p) r
    | .stray => none :: scan none r
  | some p, b :: r =>
    let n := b.toNat
    if p.low ≤ n ∧ n ≤ p.high then
      let value := p.value * 0x40 + (n - 0x80)
      if p.more ≤ 1 then some (Char.ofNat value) :: scan none r
      else scan (some ⟨p.more - 1, value, 0x80, 0xBF⟩) r
    else
      match lead b with
      | .whole c => none :: some c :: scan none r
      | .opening q => none :: scan (some q) r
      | .stray => none :: none :: scan none r

/-- The text that the bytes are, if they are UTF-8. -/
def decode? (bytes : List UInt8) : Option (List Char) :=
  (scan none bytes).mapM id

/-- The replacement character. -/
def replacement : Char := '\uFFFD'

/-- The text of the bytes, with a replacement character for each maximal malformed part. -/
def decodeLossy (bytes : List UInt8) : List Char :=
  (scan none bytes).map fun c ↦ c.getD replacement

end Unscramble.Text.Utf8

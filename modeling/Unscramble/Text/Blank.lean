/-!
# White space

The characters with Unicode's `White_Space` property, and trimming by them. There are twenty-five,
and the whole library uses this one set: statements and table entries are trimmed by it, and `\s`
in a pattern is a character of it.

## Main statements

* `trim_of_all_isBlank`: a text of white space trims to nothing.
* `trimLeft_append_of_all_isBlank`: leading white space is lost, whatever follows it.
-/

namespace Unscramble.Text

/-- A white-space character: one with Unicode's `White_Space` property. -/
def isBlank (c : Char) : Bool :=
  let n := c.toNat
  (0x9 ≤ n && n ≤ 0xD) || n == 0x20 || n == 0x85 || n == 0xA0 || n == 0x1680 ||
    (0x2000 ≤ n && n ≤ 0x200A) || n == 0x2028 || n == 0x2029 || n == 0x202F || n == 0x205F ||
    n == 0x3000

/-- The text without its leading white space. -/
def trimLeft (s : List Char) : List Char :=
  s.dropWhile isBlank

/-- The text without its trailing white space. -/
def trimRight (s : List Char) : List Char :=
  (s.reverse.dropWhile isBlank).reverse

/-- The text without the white space at its two ends. -/
def trim (s : List Char) : List Char :=
  trimRight (trimLeft s)

theorem trimLeft_append_of_all_isBlank {b : List Char} (h : b.all isBlank = true)
    (s : List Char) : trimLeft (b ++ s) = trimLeft s := by
  induction b with
  | nil => rfl
  | cons c r ih =>
    simp only [List.all_cons, Bool.and_eq_true] at h
    simpa [trimLeft, h.1] using ih h.2

theorem trim_of_all_isBlank {s : List Char} (h : s.all isBlank = true) : trim s = [] := by
  have := trimLeft_append_of_all_isBlank h []
  simp only [List.append_nil] at this
  rw [trim, this]
  rfl

end Unscramble.Text

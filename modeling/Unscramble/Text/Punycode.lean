/-!
# Punycode

Texts of any characters as texts of ASCII letters, digits and hyphens. The ASCII characters come
first, in order, followed by a hyphen if there are any. Then comes one number per other character:
how many steps separate it from the one written before it, where a step goes on to the next place in
the text so far, and from behind the last place to the first place with the next code point.

The numbers are written with digits to the base of thirty-six, the lowest first. A digit below its
*threshold* ends a number, and the thresholds follow a *bias*, which adapts to the size of the
numbers so far.

## Main definitions

* `encode`, `decode?`: the written form of a text, and the text that a written form stands for.

## Main statements

* `value?_digit`: a digit stands for the value that it was written for.
* `length_readNumber?`: reading a number consumes input.
-/

namespace Unscramble.Text.Punycode

/-! ### Digits and thresholds -/

/-- The digit of a value below thirty-six: the letters, then the decimal digits. -/
def digit (n : Nat) : Char :=
  if n < 26 then Char.ofNat (97 + n) else Char.ofNat (22 + n)

/-- The value of a digit, which may be a capital letter. -/
def value? (c : Char) : Option Nat :=
  if 'a' ≤ c ∧ c ≤ 'z' then some (c.toNat - 97)
  else if 'A' ≤ c ∧ c ≤ 'Z' then some (c.toNat - 65)
  else if '0' ≤ c ∧ c ≤ '9' then some (c.toNat - 22)
  else none

theorem value?_digit {n : Nat} (h : n < 36) : value? (digit n) = some n := by
  have : ∀ m ∈ List.range 36, value? (digit m) = some m := by decide
  exact this n (List.mem_range.mpr h)

/-- The threshold of the digit at the place `k`, which counts in steps of thirty-six from
thirty-six. -/
def threshold (bias k : Nat) : Nat :=
  if k ≤ bias then 1 else if bias + 26 ≤ k then 26 else k - bias

theorem threshold_pos (bias k : Nat) : 0 < threshold bias k := by
  grind [threshold]

theorem threshold_le (bias k : Nat) : threshold bias k ≤ 26 := by
  grind [threshold]

/-- Divide by thirty-five until at most 455 is left; with the places passed, in steps of
thirty-six. -/
def settle (delta k : Nat) : Nat × Nat :=
  if 455 < delta then settle (delta / 35) (k + 36) else (delta, k)
termination_by delta
decreasing_by omega

/-- The bias after the number `delta`, when the text has reached `length` characters. The first
number is damped more strongly than the others. -/
def adapt (delta length : Nat) (first : Bool) : Nat :=
  let damped := if first then delta / 700 else delta / 2
  let (rest, k) := settle (damped + damped / length) 0
  k + 36 * rest / (rest + 38)

/-! ### Writing -/

/-- The digits of a number from the place `k` on. -/
def writeNumber (bias k n : Nat) : List Char :=
  let t := threshold bias k
  if n < t then [digit n]
  else digit (t + (n - t) % (36 - t)) :: writeNumber bias (k + 36) ((n - t) / (36 - t))
termination_by n
decreasing_by
  have := threshold_pos bias k
  exact Nat.lt_of_le_of_lt (Nat.div_le_self ..) (by omega)

/-- Where writing stands: the number that has been counted up, the bias, and how many characters are
written. -/
structure Counter where
  delta : Nat
  bias : Nat
  written : Nat

/-- Write the occurrences of the code point `n` in a text, counting the places of smaller ones. The
text had `ascii` characters to begin with. -/
def writeCode (ascii n : Nat) : List Char → Counter → List Char × Counter
  | [], s => ([], s)
  | c :: r, s =>
    if c.toNat < n then writeCode ascii n r { s with delta := s.delta + 1 }
    else if c.toNat = n then
      let bias := adapt s.delta (s.written + 1) (s.written == ascii)
      let (out, last) := writeCode ascii n r ⟨0, bias, s.written + 1⟩
      (writeNumber s.bias 36 s.delta ++ out, last)
    else writeCode ascii n r s

/-- Write the given code points of a text, in ascending order; `next` is the least code point that
has not been counted yet. -/
def writeCodes (s : List Char) (ascii : Nat) :
    (codes : List Nat) → (next : Nat) → Counter → List Char
  | [], _, _ => []
  | n :: r, next, counter =>
    let counter := { counter with delta := counter.delta + (n - next) * (counter.written + 1) }
    let (out, counter) := writeCode ascii n s counter
    out ++ writeCodes s ascii r (n + 1) { counter with delta := counter.delta + 1 }

/-- The written form of a text. -/
def encode (s : List Char) : List Char :=
  let ascii := s.filter (·.toNat < 0x80)
  let codes := (((s.map Char.toNat).filter (0x80 ≤ ·)).mergeSort).eraseDups
  ascii ++ (if ascii.isEmpty then [] else ['-']) ++
    writeCodes s ascii.length codes 0x80 ⟨0, 72, ascii.length⟩

/-! ### Reading -/

/-- Read a number from the place `k` on, with the weight of its next digit; with what follows it. -/
def readNumber? (bias : Nat) : (k weight : Nat) → List Char → Option (Nat × List Char)
  | _, _, [] => none
  | k, weight, c :: r =>
    match value? c with
    | none => none
    | some d =>
      let t := threshold bias k
      if d < t then some (d * weight, r)
      else
        (readNumber? bias (k + 36) (weight * (36 - t)) r).map fun (n, rest) ↦ (d * weight + n, rest)

theorem length_readNumber? {bias k weight n : Nat} {s rest : List Char}
    (h : readNumber? bias k weight s = some (n, rest)) : rest.length < s.length := by
  induction s generalizing k weight n with
  | nil => simp [readNumber?] at h
  | cons c r ih =>
    rw [readNumber?] at h
    split at h
    · simp at h
    · dsimp only at h
      split at h
      · simp only [Option.some.injEq, Prod.mk.injEq] at h
        simp [h.2]
      · simp only [Option.map_eq_some_iff, Prod.mk.injEq, Prod.exists] at h
        obtain ⟨m, rest', hr, _, rfl⟩ := h
        have := ih hr
        simp only [List.length_cons]
        omega

/-- Read numbers, and put their characters into the text so far. `next` is the code point reached,
and `place` the place behind the character put in last. -/
def readCodes? (s : List Char) (out : List Char) (next place bias : Nat) (first : Bool) :
    Option (List Char) :=
  if s.isEmpty then some out
  else
    match h : readNumber? bias 36 1 s with
    | none => none
    | some (delta, rest) =>
      let size := out.length + 1
      let n := next + (place + delta) / size
      let i := (place + delta) % size
      let c := Char.ofNat n
      if c.toNat = n then
        readCodes? rest (out.take i ++ c :: out.drop i) n (i + 1) (adapt delta size first) false
      else none
termination_by s.length
decreasing_by exact length_readNumber? h

/-- The text that a written form stands for. -/
def decode? (s : List Char) : Option (List Char) :=
  let back := s.reverse
  let codes := (back.takeWhile (· != '-')).reverse
  let ascii := (back.dropWhile (· != '-')).drop 1 |>.reverse
  if ascii.all (·.toNat < 0x80) then readCodes? codes ascii 0x80 0 72 true else none

end Unscramble.Text.Punycode

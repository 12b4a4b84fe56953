import Unscramble.Text.Blank

/-!
# Timespans

A length of time, and how it is written: as terms such as `1h 30m` or `1.5s`, which add up. A term
is a whole number, digits after a point if it has any, and a unit. Its digits may be set apart by
white space, and so may the terms.

Seconds and every product on the way are below two to the sixty-fourth. The digits after a point
count in the unit's next smaller measure, nanoseconds up to minutes and whole seconds from hours on,
and what is smaller is cut off.

## Main definitions

* `Timespan.mul?`: a timespan several times.
* `TimeUnit.named?`: the unit with a name.
* `Timespan.read?`: the timespan that a text stands for.

## Main statements

* `length_of_readTerm?`: reading a term leaves a shorter text.
-/

namespace Unscramble

open Unscramble.Text

/-- A length of time. -/
structure Timespan where
  seconds : Nat
  nanoseconds : Nat
  deriving DecidableEq

/-! ### Units -/

/-- What one step of a count amounts to. -/
inductive Measure
  | nanoseconds (count : Nat)
  | seconds (count : Nat)

/-- A unit of time: what one of it is, and what the digits after a point count in, if they may stand
there. -/
structure TimeUnit where
  names : List String
  whole : Measure
  part : Option Measure

namespace TimeUnit

/-- All units, from the smallest on. Months and years have their mean length. -/
def all : List TimeUnit :=
  [⟨["nanos", "nsec", "ns"], .nanoseconds 1, none⟩,
    ⟨["usec", "us", "\u00b5s"], .nanoseconds 1000, some (.nanoseconds 1000)⟩,
    ⟨["millis", "msec", "ms"], .nanoseconds 1000000, some (.nanoseconds 1000000)⟩,
    ⟨["seconds", "second", "secs", "sec", "s"], .seconds 1, some (.nanoseconds 1000000000)⟩,
    ⟨["minutes", "minute", "min", "mins", "m"], .seconds 60, some (.nanoseconds 60000000000)⟩,
    ⟨["hours", "hour", "hrs", "hr", "h"], .seconds 3600, some (.seconds 3600)⟩,
    ⟨["days", "day", "d"], .seconds 86400, some (.seconds 86400)⟩,
    ⟨["weeks", "week", "wks", "wk", "w"], .seconds 604800, some (.seconds 604800)⟩,
    ⟨["months", "month", "M"], .seconds 2630016, some (.seconds 2630016)⟩,
    ⟨["years", "year", "yrs", "yr", "y"], .seconds 31557600, some (.seconds 31557600)⟩]

/-- The unit with a name. -/
def named? (name : List Char) : Option TimeUnit :=
  all.find? fun u ↦ u.names.contains (String.ofList name)

end TimeUnit

namespace Timespan

/-- The milliseconds that a timespan fills. -/
def milliseconds (t : Timespan) : Nat :=
  t.seconds * 1000 + t.nanoseconds / 1000000

/-! ### Sums -/

/-- A number below two to the sixty-fourth. -/
def bounded? (n : Nat) : Option Nat :=
  if n < Nat.pow 2 64 then some n else none

/-- No time at all. -/
def zero : Timespan :=
  ⟨0, 0⟩

/-- How many nanoseconds a second has. -/
def perSecond : Nat :=
  1000000000

/-- A timespan and some more seconds and nanoseconds. -/
def add? (t : Timespan) (seconds nanoseconds : Nat) : Option Timespan := do
  let n ← bounded? (t.nanoseconds + nanoseconds)
  let s ← bounded? (t.seconds + seconds + n / perSecond)
  return ⟨s, n % perSecond⟩

/-- A timespan several times. -/
def mul? (t : Timespan) (count : Nat) : Option Timespan := do
  let n := t.nanoseconds * count
  let s ← bounded? (t.seconds * count)
  let s ← bounded? (s + n / perSecond)
  return ⟨s, n % perSecond⟩

/-- The shorter of two timespans: the seconds decide, and the nanoseconds if those are equal. -/
def shorter (t u : Timespan) : Timespan :=
  if t.seconds < u.seconds ∨ (t.seconds = u.seconds ∧ t.nanoseconds ≤ u.nanoseconds) then t else u

/-- A timespan and `count` steps of a measure, of which `divisor` are one. -/
def addSteps? (t : Timespan) (measure : Measure) (count divisor : Nat) : Option Timespan := do
  match measure with
  | .nanoseconds size => t.add? 0 ((← bounded? (count * size)) / divisor)
  | .seconds size => t.add? ((← bounded? (count * size)) / divisor) 0

/-! ### Terms -/

/-- One term of a timespan: its digits before and after the point, and the name of its unit. -/
structure Term where
  whole : List Char
  fraction : Option (List Char)
  unit : List Char

/-- A timespan and one more term. -/
def addTerm? (t : Timespan) (term : Term) : Option Timespan := do
  let unit ← TimeUnit.named? term.unit
  let count ← bounded? (Nat.ofDigitChars 10 term.whole 0)
  let t ← t.addSteps? unit.whole count 1
  match term.fraction with
  | none => return t
  | some digits =>
    let divisor ← bounded? (Nat.pow 10 digits.length)
    t.addSteps? (← unit.part) (Nat.ofDigitChars 10 digits 0) divisor

/-! ### Reading -/

/-- A character that digits may be set apart with, or a digit. -/
def isOfNumber (c : Char) : Bool :=
  c.isDigit || isBlank c

/-- A character of a unit's name: a Latin letter, or the micro sign. -/
def isOfUnit (c : Char) : Bool :=
  c.isAlpha || c == '\u00b5'

/-- The digits at the start of a text, which white space may set apart, and what follows them. -/
def splitDigits (s : List Char) : List Char × List Char :=
  ((s.takeWhile isOfNumber).filter Char.isDigit, s.dropWhile isOfNumber)

/-- The digits after the point at the start of a text, if there is a point. At least one digit must
follow it. -/
def readFraction? : List Char → Option (Option (List Char) × List Char)
  | '.' :: r =>
    match splitDigits r with
    | ([], _) => none
    | (digits, rest) => some (some digits, rest)
  | s => some (none, s)

/-- The term at the start of a text, which must begin with a digit, and what follows it. -/
def readTerm? : List Char → Option (Term × List Char)
  | [] => none
  | c :: r => do
    if c.isDigit then
      let (whole, rest) := splitDigits r
      let (fraction, rest) ← readFraction? rest
      return (⟨c :: whole, fraction, rest.takeWhile isOfUnit⟩, rest.dropWhile isOfUnit)
    else none

theorem length_dropWhile_le {α : Type} (p : α → Bool) (l : List α) :
    (l.dropWhile p).length ≤ l.length :=
  (List.dropWhile_sublist p).length_le

theorem length_of_readFraction? {s rest : List Char} {fraction : Option (List Char)}
    (h : readFraction? s = some (fraction, rest)) : rest.length ≤ s.length := by
  unfold readFraction? at h
  split at h
  · rename_i r
    have := length_dropWhile_le isOfNumber r
    split at h
    · cases h
    · rename_i hs
      cases h
      have hr : r.dropWhile isOfNumber = rest := congrArg Prod.snd hs
      simp only [← hr, List.length_cons]
      omega
  · cases h
    exact Nat.le_refl _

theorem length_of_readTerm? {s rest : List Char} {term : Term}
    (h : readTerm? s = some (term, rest)) : rest.length < s.length := by
  match s, h with
  | c :: r, h =>
    simp only [readTerm?] at h
    split at h
    · obtain ⟨⟨fraction, middle⟩, hf, h⟩ := Option.bind_eq_some_iff.1 h
      have h₁ := length_of_readFraction? hf
      have h₂ := length_dropWhile_le isOfNumber r
      have h₃ := length_dropWhile_le isOfUnit middle
      cases h
      simp only [splitDigits] at h₁
      simp only [List.length_cons]
      omega
    · cases h

/-- A timespan and the terms of a text. -/
def addTerms? (t : Timespan) (s : List Char) : Option Timespan :=
  if (trimLeft s).isEmpty then some t
  else
    match _h : readTerm? (trimLeft s) with
    | none => none
    | some (term, rest) =>
      match t.addTerm? term with
      | none => none
      | some t => t.addTerms? rest
termination_by s.length
decreasing_by exact Nat.lt_of_lt_of_le (length_of_readTerm? _h) (length_dropWhile_le isBlank s)

/-- The timespan that a text of at least one term stands for. -/
def read? (s : List Char) : Option Timespan :=
  if (trimLeft s).isEmpty then none else zero.addTerms? s

end Timespan

end Unscramble

import Unscramble.Text.Mark
import Unscramble.Text.Normal
import Unscramble.Text.Percent
import Unscramble.Text.Punycode
import Unscramble.Text.Split
import Unscramble.Url.Domain.Direction
import Unscramble.Url.Domain.Joining
import Unscramble.Url.Domain.Refused
import Unscramble.Url.Domain.Replaced

/-!
# Domain names

A domain name may use the characters of all scripts, but is passed on in ASCII. Its characters are
replaced by plainer ones, or refused; the result is brought into composed form and cut at full stops
into labels; and a label that is not ASCII is written in Punycode behind `xn--`. A label that comes
with `xn--` must stand for one that could have been written so.

Labels with characters beyond ASCII are held to three more rules: none begins with a mark, a joiner
stands only where it joins something, and in a name with letters that run from right to left no
label leaves open which way it runs.

## Main definitions

* `Domain.fold?`: what one character stands for.
* `Domain.read?`: the ASCII form of a domain name.
-/

namespace Unscramble.Url.Domain

open Unscramble.Text

/-! ### Characters -/

/-- An ASCII character that no domain name has. -/
def isForbidden (c : Char) : Bool :=
  c.toNat ≤ 0x20 || c.toNat == 0x7F || "#%/:<>?@[\\]^|".toList.contains c

/-- What a replaced character stands for. -/
def replacement? (c : Char) : Option (List Char) :=
  match Normal.lastRow replacedRuns (·.1) c.toNat with
  | some (first, count, step, target) =>
    let i := (c.toNat - first) / step
    if first + step * i = c.toNat ∧ i < count then some [Char.ofNat (target + step * i)]
    else expansion?
  | none => expansion?
where
  expansion? : Option (List Char) :=
    match Normal.lastRow expansions (·.1) c.toNat with
    | some (n, s) => if n = c.toNat then some s.toList else none
    | none => none

/-- What a character stands for in a domain name; `none` if it is refused. -/
def fold? (c : Char) : Option (List Char) :=
  if c.toNat < 0x80 then if isForbidden c then none else some [c.toLower]
  else if refusedRanges.has c then none
  else if ignoredRanges.has c then some []
  else
    match replacement? c with
    | none => some [c]
    | some cs => if cs.any isForbidden then none else some cs

/-! ### Joiners -/

/-- The joiner that keeps letters apart. -/
def apart : Char := '\u200C'

/-- The joiner that holds letters together. -/
def together : Char := '\u200D'

/-- A mark that takes the vowel from the letter before it. -/
def isVowelKiller (c : Char) : Bool :=
  Normal.combiningClass c == 9

/-- A character that does not take part in joining. -/
def isPassedOver (c : Char) : Bool :=
  attachedRanges.has c || passedOverRanges.has c

/-- Whether the first of `s` that takes part in joining lies in one of two tables. -/
def joinsAt (one two : Ranges) (s : List Char) : Bool :=
  match s.dropWhile isPassedOver with
  | [] => false
  | c :: _ => one.has c || two.has c

/-- Whether every joiner of a label stands where it joins something; `before` is what was passed,
last character first. -/
def joinersFit : (before s : List Char) → Bool
  | _, [] => true
  | before, c :: r =>
    let killed := before.head?.any isVowelKiller
    let fits :=
      if c = apart then
        killed || joinsAt joinsBothRanges joinsAfterRanges before &&
          joinsAt joinsBothRanges joinsBeforeRanges r
      else if c = together then killed
      else true
    fits && joinersFit (c :: before) r

/-! ### Directions -/

/-- Which way a character runs. -/
inductive Direction
  /-- From left to right. -/
  | left
  /-- From right to left. -/
  | right
  /-- An Arabic number. -/
  | arabicDigit
  /-- A European number. -/
  | digit
  /-- As its surroundings. -/
  | neutral
  /-- As the character before it. -/
  | attached
  deriving DecidableEq

/-- The direction of a character. -/
def direction (c : Char) : Direction :=
  if attachedRanges.has c then .attached
  else if rightRanges.has c || arabicRanges.has c then .right
  else if arabicDigitRanges.has c then .arabicDigit
  else if digitRanges.has c then .digit
  else if neutralRanges.has c then .neutral
  else .left

/-- Whether a label of a name with letters from right to left leaves no doubt which way it runs. -/
def runsOneWay (label : List Char) : Bool :=
  let ds := label.map direction
  let last := (ds.reverse.dropWhile (· == .attached)).head?
  match ds.head? with
  | none => true
  | some .left =>
    ds.all (fun d ↦ d != .right && d != .arabicDigit) && (last == some .left || last == some .digit)
  | some .right =>
    ds.all (· != .left) &&
      (last == some .right || last == some .digit || last == some .arabicDigit) &&
      !(ds.contains .digit && ds.contains .arabicDigit)
  | some _ => false

/-- Whether a label has a character that runs from right to left. -/
def runsRight (label : List Char) : Bool :=
  label.any fun c ↦ direction c == .right || direction c == .arabicDigit

/-! ### Labels -/

/-- A label that could stand in a name as it is: its characters stand for themselves, it is in
composed form, it does not begin with a mark, and its joiners fit. -/
def isSettled (label : List Char) : Bool :=
  label.all (fun c ↦ fold? c == some [c]) && Normal.composed label == label &&
    !label.head?.any markRanges.has && joinersFit [] label

/-- A label in both its forms. -/
structure Label where
  ascii : List Char
  full : List Char

/-- What marks a label that is written in Punycode. -/
def mark : List Char := ['x', 'n', '-', '-']

/-- The label that a part of a name is, after its characters have been replaced. Labels of more than
a thousand characters are not brought into Punycode, and ones of more than two thousand are not read
from it. -/
def Label.read? (s : List Char) : Option Label :=
  if s.all (·.toNat < 0x80) then
    match strip? mark s with
    | none => some ⟨s, s⟩
    | some code =>
      if code.getLast?.all (· == '-') || 2000 < code.length then none
      else
        match Punycode.decode? code with
        | some full => if isSettled full then some ⟨s, full⟩ else none
        | none => none
  else if isSettled s && (strip? mark s).isNone && s.length ≤ 1000 then
    some ⟨mark ++ Punycode.encode s, s⟩
  else none

/-- The ASCII form of a domain name. -/
def ofText? (s : List Char) : Option (List Char) := do
  let folded ← s.mapM fold?
  let labels ← (pieces (· == '.') (Normal.composed folded.flatten)).mapM Label.read?
  if labels.any (fun l ↦ runsRight l.full) && !labels.all (fun l ↦ runsOneWay l.full) then none
  return ['.'].intercalate (labels.map (·.ascii))

/-- The ASCII form of a domain name whose characters may be written as percent triplets. -/
def read? (s : List Char) : Option (List Char) := do
  ofText? (← Utf8.decode? (Percent.decode (Utf8.encode s)))

end Unscramble.Url.Domain

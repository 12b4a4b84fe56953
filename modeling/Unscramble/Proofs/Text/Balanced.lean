import Mathlib.Data.List.Infix

/-!
# Balanced braces

A text is balanced if each closing brace has an opening one before it, and none is left open. In a
text behind an opening brace, the brace that closes it is the one with a balanced text in front of
it. There is at most one, so a text behind an opening brace has at most one balanced body.

## Main definitions

* `Balanced`: the braces of a text belong together.

## Main statements

* `Balanced.unique`: a text behind an opening brace has at most one balanced body.
-/

namespace Unscramble.Text

/-- Nowhere have more braces been closed than were opened, and in the end as many have. -/
structure Balanced (s : List Char) : Prop where
  closed_le : ∀ u, u <+: s → u.count '\x7d' ≤ u.count '\x7b'
  count_eq : s.count '\x7b' = s.count '\x7d'

/-- No closing brace of a balanced text is one too many. -/
theorem Balanced.not_append_brace_prefix {b s : List Char} (hs : Balanced s) (hb : Balanced b) :
    ¬ b ++ ['\x7d'] <+: s := by
  intro h
  have hle := hs.closed_le _ h
  rw [List.count_append, List.count_append, ← hb.count_eq] at hle
  have hclosing : List.count '\x7d' ['\x7d'] = 1 := rfl
  have hopening : List.count '\x7b' ['\x7d'] = 0 := rfl
  omega

/-- Two places with the same character in a text are one place, or one is in front of the other. -/
theorem eq_or_of_append_cons_eq {c : Char} {b b' r r' : List Char}
    (h : b ++ c :: r = b' ++ c :: r') :
    b = b' ∨ (∃ u, b' = b ++ c :: u ∧ r = u ++ c :: r') ∨
      ∃ u, b = b' ++ c :: u ∧ r' = u ++ c :: r := by
  rcases List.append_eq_append_iff.1 h with ⟨u, rfl, hu⟩ | ⟨u, rfl, hu⟩
  · rcases u with - | ⟨d, u⟩
    · exact .inl (List.append_nil b).symm
    · obtain ⟨rfl, rfl⟩ := List.cons.inj hu
      exact .inr (.inl ⟨u, rfl, rfl⟩)
  · rcases u with - | ⟨d, u⟩
    · exact .inl (List.append_nil b')
    · obtain ⟨rfl, rfl⟩ := List.cons.inj hu
      exact .inr (.inr ⟨u, rfl, rfl⟩)

/-- A text in front of a character in a text is shorter than another only if it is cut off from it
at such a character. -/
theorem length_le_or_of_append_cons_eq {c : Char} {b b' r r' : List Char}
    (h : b ++ c :: r = b' ++ c :: r') :
    b.length ≤ b'.length ∨ ∃ u, b = b' ++ c :: u ∧ r' = u ++ c :: r := by
  rcases eq_or_of_append_cons_eq h with rfl | ⟨u, rfl, -⟩ | hshorter
  · exact .inl le_rfl
  · exact .inl (by simp)
  · exact .inr hshorter

/-- **There is at most one balanced body** in a text behind an opening brace. -/
theorem Balanced.unique {b b' r r' : List Char} (hb : Balanced b) (hb' : Balanced b')
    (h : b ++ '\x7d' :: r = b' ++ '\x7d' :: r') : b = b' := by
  rcases eq_or_of_append_cons_eq h with rfl | ⟨u, rfl, -⟩ | ⟨u, rfl, -⟩
  · rfl
  · -- the brace behind `b` stands in `b'`
    exact absurd ⟨u, by simp⟩ (hb'.not_append_brace_prefix hb)
  · exact absurd ⟨u, by simp⟩ (hb.not_append_brace_prefix hb')

end Unscramble.Text

/-!
# Cutting and replacing

Texts are lists of characters here: `pieces` cuts one at every separator, `replaceAll` replaces
the occurrences of a fixed text from left to right, `splitFirst?` cuts at the first separator, and
`hasPart` looks for a fixed text.

## Main statements

* `intercalate_pieces`: the pieces, joined by the separator, are the text again.
-/

namespace Unscramble.Text

/-- The pieces of a text between its separators. There is one more piece than separators, so the
empty text has one empty piece. -/
def pieces (sep : Char → Bool) : List Char → List (List Char)
  | [] => [[]]
  | c :: r =>
    if sep c then [] :: pieces sep r
    else
      match pieces sep r with
      | [] => [[c]]
      | w :: ws => (c :: w) :: ws

/-- Cut at the first separator, which belongs to neither part; `none` if there is no separator. -/
def splitFirst? (sep : Char) : List Char → Option (List Char × List Char)
  | [] => none
  | c :: r => if c = sep then some ([], r) else (splitFirst? sep r).map fun (a, b) ↦ (c :: a, b)

/-- What follows `start`, if the text begins with it. -/
def strip? : (start s : List Char) → Option (List Char)
  | [], s => some s
  | _ :: _, [] => none
  | a :: as, c :: r => if a = c then strip? as r else none

/-- Whether a text has `part` somewhere in it. -/
def hasPart (part : List Char) : List Char → Bool
  | [] => part.isEmpty
  | c :: r => part.isPrefixOf (c :: r) || hasPart part r

/-- Replace every occurrence of `old`, from left to right and without overlaps. `skip` counts the
characters of the current occurrence that are still to be passed over. -/
def replaceFrom (old new : List Char) : (skip : Nat) → List Char → List Char
  | _, [] => []
  | skip + 1, _ :: r => replaceFrom old new skip r
  | 0, c :: r =>
    if old.isPrefixOf (c :: r) then new ++ replaceFrom old new (old.length - 1) r
    else c :: replaceFrom old new 0 r

/-- Replace every occurrence of the non-empty text `old`, from left to right and without
overlaps. -/
def replaceAll (old new s : List Char) : List Char :=
  replaceFrom old new 0 s

theorem pieces_ne_nil (sep : Char → Bool) (s : List Char) : pieces sep s ≠ [] := by
  cases s with
  | nil => simp [pieces]
  | cons c r =>
    rw [pieces]
    split
    · simp
    · split <;> simp

/-- Cutting loses nothing but the separators. -/
theorem intercalate_pieces (sep : Char) (s : List Char) :
    [sep].intercalate (pieces (· == sep) s) = s := by
  induction s with
  | nil => rfl
  | cons c r ih =>
    rw [pieces]
    split
    case isTrue h =>
      obtain rfl : c = sep := by simpa using h
      cases hp : pieces (· == c) r with
      | nil => exact absurd hp (pieces_ne_nil _ _)
      | cons w ws =>
        rw [hp] at ih
        simpa [List.intercalate, List.intersperse] using ih
    case isFalse h =>
      cases hp : pieces (· == sep) r with
      | nil => exact absurd hp (pieces_ne_nil _ _)
      | cons w ws =>
        rw [hp] at ih
        cases ws with
        | nil => simpa [List.intercalate] using ih
        | cons w' ws' => simpa [List.intercalate, List.intersperse] using ih

end Unscramble.Text

import Unscramble.Proofs.Pattern.Runs

/-!
# What a sequence of classes spells

Large parts of the templates are sequences of classes that stand alone or are repeated, with fixed
characters as the smallest classes. Such a sequence has no groups, conditions or alternatives, so a
run of it does nothing but consume a word, and which words these are can be said without any place:
the word is cut into as many pieces as there are parts, and each piece fits its part. That a
template matches here and that it does not match there are then both facts about the text alone.

## Main definitions

* `Piece`: a class that stands alone or is repeated.
* `Piece.Fits`, `Spells`: the words of a part and of a sequence of parts.

## Main statements

* `spells_map_one`: the words of a sequence of classes that stand alone.
* `spells_text`: the word of a sequence of fixed characters.
* `Node.mem_runs_pieces`: the places that a sequence of parts reaches.
-/

namespace Unscramble.Pattern

/-- A class that stands alone or is repeated. -/
inductive Piece
  /-- One character of a class. -/
  | one (c : CharClass)
  /-- At least one character of a class. -/
  | some (c : CharClass)
  /-- Any number of characters of a class. -/
  | any (c : CharClass)

namespace Piece

/-- One fixed character. -/
def char (c : Char) : Piece :=
  .one (.only c)

/-- The characters of a fixed word, one part each. -/
def text (w : List Char) : List Piece :=
  w.map char

/-- Any white space. -/
def blanks : Piece :=
  .any .blank

/-- The part as a pattern, which takes as much as it can. -/
def node : Piece → Node
  | one c => .one c
  | some c => .plus c
  | any c => .many true c

/-- The words of a part. -/
def Fits : Piece → List Char → Prop
  | one c, w => ∃ x, w = [x] ∧ c.has x = true
  | some c, w => w ≠ [] ∧ ∀ x ∈ w, c.has x = true
  | any c, w => ∀ x ∈ w, c.has x = true

end Piece

/-- The words of a sequence of parts. -/
def Spells : List Piece → List Char → Prop
  | [], w => w = []
  | a :: as, w => ∃ u v, w = u ++ v ∧ a.Fits u ∧ Spells as v

/-- A sequence of classes that stand alone has one character for each of them. -/
theorem spells_map_one {cs : List CharClass} {w : List Char} :
    Spells (cs.map .one) w ↔ List.Forall₂ (fun c x ↦ c.has x = true) cs w := by
  induction cs generalizing w with
  | nil => exact ⟨fun h ↦ h ▸ .nil, fun h ↦ by cases h; rfl⟩
  | cons c cs ih =>
    constructor
    · rintro ⟨_, v, rfl, ⟨x, rfl, hx⟩, hv⟩
      exact .cons hx (ih.1 hv)
    · rintro (_ | ⟨hx, hv⟩)
      exact ⟨[_], _, rfl, ⟨_, rfl, hx⟩, ih.2 hv⟩

/-- In front of other parts, a fixed character is the first one of a word. -/
theorem spells_char_cons {c : Char} {as : List Piece} {w : List Char} :
    Spells (.char c :: as) w ↔ ∃ v, w = c :: v ∧ Spells as v := by
  constructor
  · rintro ⟨_, v, rfl, ⟨x, rfl, hx⟩, hv⟩
    rw [CharClass.has_only, beq_iff_eq] at hx
    exact ⟨v, by rw [hx]; rfl, hv⟩
  · rintro ⟨v, rfl, hv⟩
    exact ⟨[c], v, rfl, ⟨c, rfl, by rw [CharClass.has_only, beq_self_eq_true]⟩, hv⟩

/-- A fixed word is the only word of its parts. -/
theorem spells_text {w v : List Char} : Spells (Piece.text w) v ↔ v = w := by
  induction w generalizing v with
  | nil => rfl
  | cons c w ih =>
    rw [Piece.text, List.map_cons, spells_char_cons]
    constructor
    · rintro ⟨r, rfl, hr⟩
      rw [ih.1 hr]
    · rintro rfl
      exact ⟨w, rfl, ih.2 rfl⟩

namespace Node

variable {p q : Place}

/-- A part reaches every place behind one of its words. -/
theorem mem_runs_piece {a : Piece} :
    q ∈ a.node.runs p ↔ ∃ w rest, p.rest = w ++ rest ∧ a.Fits w ∧ q = p.after w rest := by
  cases a with
  | one c =>
    refine mem_runs_one.trans ⟨?_, ?_⟩
    · rintro ⟨x, rest, hp, hx, hq⟩
      exact ⟨[x], rest, hp, ⟨x, rfl, hx⟩, hq⟩
    · rintro ⟨_, rest, hp, ⟨x, rfl, hx⟩, hq⟩
      exact ⟨x, rest, hp, hx, hq⟩
  | some c =>
    simp only [Piece.node, mem_runs_plus, Piece.Fits, and_assoc]
  | any c => exact mem_runs_many

/-- **A sequence of parts** reaches every place behind one of its words. -/
theorem mem_runs_pieces {as : List Piece} :
    q ∈ (cats (as.map Piece.node)).runs p ↔
      ∃ w rest, p.rest = w ++ rest ∧ Spells as w ∧ q = p.after w rest := by
  induction as generalizing p with
  | nil =>
    rw [List.map_nil, cats, runs_empty, List.mem_singleton]
    constructor
    · rintro rfl
      exact ⟨[], q.rest, rfl, rfl, (Place.after_nil rfl).symm⟩
    · rintro ⟨_, rest, hp, rfl, rfl⟩
      exact Place.after_nil hp
  | cons a as ih =>
    rw [List.map_cons, mem_runs_cats_cons]
    constructor
    · rintro ⟨m, hm, hq⟩
      obtain ⟨u, s, hp, hu, rfl⟩ := mem_runs_piece.1 hm
      obtain ⟨v, rest, hs, hv, rfl⟩ := ih.1 hq
      obtain rfl : s = v ++ rest := hs
      exact ⟨u ++ v, rest, by rw [hp, List.append_assoc], ⟨u, v, rfl, hu, hv⟩,
        Place.after_after p rest u v⟩
    · rintro ⟨_, rest, hp, ⟨u, v, rfl, hu, hv⟩, rfl⟩
      refine ⟨p.after u (v ++ rest), mem_runs_piece.2 ⟨u, v ++ rest, ?_, hu, rfl⟩,
        ih.2 ⟨v, rest, rfl, hv, (Place.after_after p rest u v).symm⟩⟩
      rw [hp, List.append_assoc]

end Node

end Unscramble.Pattern

/-!
# Texts with their characters

The characters of a text that is written out are known to a reader, but finding them by evaluating
`String.toList` takes long: it goes through the bytes of the text, and again for each character.
Comparing the text with its characters takes no time at all. A `Spelled` text therefore comes with
its characters, so that what is computed from them can be computed at once.

## Main definitions

* `Spelled`: a text with its characters.
* `Spelled.of`, `Spelled.append`: the characters of a literal, and of two texts in a row.
-/

namespace Unscramble.Text

/-- The characters of a text. -/
structure Spelled (s : String) where
  chars : List Char
  toList_eq : s.toList = chars

namespace Spelled

variable {s t : String}

/-- The characters of a literal. -/
def of {l : List Char} (h : s = String.ofList l) : Spelled s :=
  ⟨l, by rw [h, String.toList_ofList]⟩

/-- The characters of two texts after one another. -/
def append (a : Spelled s) (b : Spelled t) : Spelled (s ++ t) :=
  ⟨a.chars ++ b.chars, by rw [String.toList_append, a.toList_eq, b.toList_eq]⟩

end Spelled

/-- The characters of a list that is written out are checked one by one. -/
theorem forall_mem_of_all {l : List Char} {p : Char → Prop} [DecidablePred p]
    (h : (l.all fun x ↦ decide (p x)) = true) : ∀ x ∈ l, p x :=
  fun x hx ↦ of_decide_eq_true (List.all_eq_true.1 h x hx)

end Unscramble.Text

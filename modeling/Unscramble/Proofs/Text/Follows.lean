import Mathlib.Data.List.Chain

/-!
# What follows a character

Whether a search can stop somewhere often depends on two neighbouring characters only. In a text
that is put together from pieces, most neighbours lie within a piece, so such a condition is checked
piece by piece and where two pieces meet.

## Main definitions

* `Follows`: a character is always followed by one of a class.

## Main statements

* `Follows.append`, `Follows.intercalate`: the condition passes from pieces to the whole.
-/

namespace Unscramble.Text

/-- Wherever the character `a` stands in the text, and not at its end, the next character is in the
class `q`. -/
def Follows (a : Char) (q : Char → Bool) (s : List Char) : Prop :=
  s.IsChain fun c d ↦ c = a → q d = true

instance (a : Char) (q : Char → Bool) (s : List Char) : Decidable (Follows a q s) :=
  inferInstanceAs (Decidable (s.IsChain _))

variable {a : Char} {q : Char → Bool} {s t : List Char}

theorem follows_of_notMem (h : a ∉ s) : Follows a q s := by
  rw [Follows, List.isChain_iff_forall_rel_of_append_cons_cons]
  rintro c d u r rfl rfl
  exact absurd (List.mem_append_right u List.mem_cons_self) h

theorem Follows.of_append {u r : List Char} {d : Char} (h : Follows a q (u ++ a :: d :: r)) :
    q d = true :=
  (List.isChain_append_cons_cons.1 h).2.1 rfl

/-- Two pieces meet well if the first does not end in the character, or the second goes on with one
of the class. -/
theorem Follows.append (hs : Follows a q s) (ht : Follows a q t)
    (h : a ∉ s.getLast? ∨ ∀ d ∈ t.head?, q d = true) : Follows a q (s ++ t) := by
  refine List.IsChain.append hs ht fun c hc d hd hca ↦ ?_
  subst hca
  rcases h with h | h
  · exact absurd hc h
  · exact h d hd

/-- Pieces that all meet the separator well can be joined by it. -/
theorem Follows.intercalate {ss : List (List Char)} (hs : Follows a q s)
    (hss : ∀ t ∈ ss, Follows a q t) (hlast : a ∉ s.getLast?)
    (hmeet : (∀ t ∈ ss, a ∉ t.getLast?) ∨ ∀ d ∈ s.head?, q d = true) (hne : s ≠ []) :
    Follows a q (s.intercalate ss) := by
  induction ss with
  | nil => exact List.isChain_nil
  | cons t ss ih =>
    have ht := hss t List.mem_cons_self
    cases ss with
    | nil => rwa [List.intercalate_singleton]
    | cons t' ss =>
      have hrest : Follows a q (s.intercalate (t' :: ss)) := by
        refine ih (fun x hx ↦ hss x (List.mem_cons_of_mem t hx)) (hmeet.imp_left ?_)
        exact fun h x hx ↦ h x (List.mem_cons_of_mem t hx)
      rw [List.intercalate_cons_cons]
      refine (ht.append hs (hmeet.imp_left fun h ↦ h t List.mem_cons_self)).append hrest (.inl ?_)
      rwa [List.getLast?_append_of_ne_nil t hne]

end Unscramble.Text

import Mathlib.Data.List.Infix
import Unscramble.Proofs.HelperTable

/-!
# Cutting a table text loses nothing

A table text is cut wherever a comma stands directly behind a brace. The brace stays with the member
before it, and the comma goes. So the members, with a comma between any two, are the text again, and
there is one member more than there are such places. No member has such a place in it, and all but
the last end in a brace.

These properties belong to cut texts only: any list that has them is the list of the members of what
it is joined to by commas. A comma that joins two members stands behind the brace of the first, and
makes no other place, whatever the second begins with.

## Main definitions

* `occurrences`: how often one text stands in another.
* `AreMembers`: a list that can come out of a cut.

## Main statements

* `intercalate_members`, `length_members`, `areMembers_members`: what comes out of a cut.
* `AreMembers.members_intercalate`: such a list comes out again.
* `members_lossless`: all of it.
-/

namespace Unscramble

open Unscramble.Text

/-- The number of places in a text at which `part` stands; they may overlap. -/
def Text.occurrences (part text : List Char) : ℕ :=
  text.tails.countP part.isPrefixOf

/-- What a list of members is like: it has one, all but the last of them end in a brace, and a comma
stands directly behind a brace in none of them. -/
structure AreMembers (ms : List (List Char)) : Prop where
  ne_nil : ms ≠ []
  getLast? : ∀ m ∈ ms.dropLast, m.getLast? = some '\x7d'
  uncut : ∀ m ∈ ms, ¬ ['\x7d', ','] <:+: m

/-! ### Places -/

theorem Text.occurrences_cons (part : List Char) (c : Char) (s : List Char) :
    occurrences part (c :: s) = occurrences part s + if part <+: c :: s then 1 else 0 := by
  simp only [occurrences, List.tails_cons, List.countP_cons, List.isPrefixOf_iff_prefix]

/-- No comma follows a brace exactly if the two stand nowhere together. -/
theorem follows_brace_iff {s : List Char} :
    Follows '\x7d' (· != ',') s ↔ ¬ ['\x7d', ','] <:+: s := by
  constructor
  · rintro h ⟨u, r, rfl⟩
    rw [List.append_assoc] at h
    exact absurd (Follows.of_append (u := u) h) (by decide)
  · intro h
    rw [Follows, List.isChain_iff_forall_rel_of_append_cons_cons]
    rintro c d u r rfl rfl
    rw [bne_iff_ne]
    rintro rfl
    exact h ⟨u, r, by rw [List.append_assoc]; rfl⟩

/-! ### Joining and cutting -/

/-- **The members, joined by commas, are the text again.** -/
theorem intercalate_members (text : List Char) : [','].intercalate (members text) = text := by
  -- by the cases of `members`: a cut, any other character, and the end
  fun_induction members text with
  | case1 r ih => rw [intercalate_cons_of_ne_nil (members_ne_nil r), ih]; rfl
  | case2 c r hcut hnil ih => exact absurd hnil (members_ne_nil r)
  | case3 c r hcut m ms hm ih => rw [intercalate_head_cons, ← hm, ih]
  | case4 => rfl

/-- **There is one member more than there are places to cut at.** -/
theorem length_members (text : List Char) :
    (members text).length = occurrences ['\x7d', ','] text + 1 := by
  fun_induction members text with
  | case1 r ih =>
    -- the comma begins no place, and the brace begins one
    rw [List.length_cons, ih, occurrences_cons, occurrences_cons, if_neg, if_pos ⟨r, rfl⟩]
    rintro ⟨t, ht⟩
    exact absurd (List.cons.inj ht).1 (by decide)
  | case2 c r hcut hnil ih => exact absurd hnil (members_ne_nil r)
  | case3 c r hcut m ms hm ih =>
    rw [hm] at ih
    rw [List.length_cons] at ih ⊢
    rw [ih, occurrences_cons, if_neg]
    rintro ⟨t, ht⟩
    exact hcut t (List.cons.inj ht).1.symm (List.cons.inj ht).2.symm
  | case4 => rfl

/-- A brace in front of a list of members is one more member. -/
theorem AreMembers.cons_brace {ms : List (List Char)} (h : AreMembers ms) :
    AreMembers (['\x7d'] :: ms) := by
  refine ⟨List.cons_ne_nil _ _, ?_, List.forall_mem_cons.2 ⟨by decide, h.uncut⟩⟩
  rw [List.dropLast_cons_of_ne_nil h.ne_nil]
  exact List.forall_mem_cons.2 ⟨rfl, h.getLast?⟩

/-- A character can be put in front of the first member, if no comma comes to stand behind a
brace. -/
theorem AreMembers.head_cons {c : Char} {m : List Char} {ms : List (List Char)}
    (h : AreMembers (m :: ms)) (hc : c = '\x7d' → ∀ d ∈ m.head?, d ≠ ',') :
    AreMembers ((c :: m) :: ms) := by
  obtain ⟨hm, hms⟩ := List.forall_mem_cons.1 h.uncut
  refine ⟨List.cons_ne_nil _ _, ?_, List.forall_mem_cons.2 ⟨?_, hms⟩⟩
  · rcases ms with _ | ⟨m', ms⟩
    · exact List.forall_mem_nil _
    · have hlast := h.getLast?
      rw [List.dropLast_cons_of_ne_nil (List.cons_ne_nil _ _), List.forall_mem_cons] at hlast ⊢
      obtain ⟨y, rfl⟩ := List.getLast?_eq_some_iff.1 hlast.1
      exact ⟨List.getLast?_concat (l := c :: y), hlast.2⟩
  · rw [← follows_brace_iff] at hm ⊢
    exact List.isChain_cons.2 ⟨fun d hd hbrace ↦ bne_iff_ne.2 (hc hbrace d hd), hm⟩

/-- **What comes out of a cut** is a list of members. -/
theorem areMembers_members (text : List Char) : AreMembers (members text) := by
  fun_induction members text with
  | case1 r ih => exact ih.cons_brace
  | case2 c r hcut hnil ih => exact absurd hnil (members_ne_nil r)
  | case3 c r hcut m ms hm ih =>
    rw [hm] at ih
    refine ih.head_cons fun hc d hd ↦ ?_
    rintro rfl
    -- a comma at the beginning of `m` is one at the beginning of `r`
    obtain ⟨m, rfl⟩ := List.head?_eq_some_iff.1 hd
    have hr : r = ',' :: [','].intercalate (m :: ms) := by
      rw [← intercalate_head_cons, ← hm, intercalate_members]
    exact hcut _ hc hr
  | case4 => exact ⟨List.cons_ne_nil _ _, by simp, by simp⟩

/-- **A list of members comes out again** of what it is joined to by commas. -/
theorem AreMembers.members_intercalate {ms : List (List Char)} (h : AreMembers ms) :
    members ([','].intercalate ms) = ms := by
  obtain ⟨hne, hlast, huncut⟩ := h
  induction ms with
  | nil => exact absurd rfl hne
  | cons m ms ih =>
    obtain ⟨hm, hms⟩ := List.forall_mem_cons.1 huncut
    rw [← follows_brace_iff] at hm
    rcases ms with _ | ⟨m', ms⟩
    · rw [List.intercalate_singleton, members_of_follows hm]
    · rw [List.dropLast_cons_of_ne_nil (List.cons_ne_nil _ _), List.forall_mem_cons] at hlast
      obtain ⟨y, rfl⟩ := List.getLast?_eq_some_iff.1 hlast.1
      have hcut : [','].intercalate ((y ++ ['\x7d']) :: m' :: ms) =
          y ++ '\x7d' :: ',' :: [','].intercalate (m' :: ms) := by
        rw [List.intercalate_cons_cons]
        simp
      rw [hcut, members_append_comma, members_of_follows hm,
        ih (List.cons_ne_nil _ _) hlast.2 hms]
      rfl

/-- **Cutting a table text loses nothing.** The members of a text, joined by commas, are the text
again. There is one member more than there are places where a comma stands directly behind a brace;
each member but the last ends in a brace, and no such place lies within a member. Conversely,
every non-empty list of texts with these two properties comes out of cutting what it is joined to by
commas. -/
theorem members_lossless :
    (∀ text : List Char, [','].intercalate (members text) = text ∧
      (members text).length = occurrences ['\x7d', ','] text + 1 ∧
      (∀ m ∈ (members text).dropLast, m.getLast? = some '\x7d') ∧
      ∀ m ∈ members text, ¬ ['\x7d', ','] <:+: m) ∧
    ∀ ms : List (List Char), ms ≠ [] → (∀ m ∈ ms, ¬ ['\x7d', ','] <:+: m) →
      (∀ m ∈ ms.dropLast, m.getLast? = some '\x7d') → members ([','].intercalate ms) = ms := by
  refine ⟨fun text ↦ ?_, fun ms hne huncut hlast ↦ ?_⟩
  · have h := areMembers_members text
    exact ⟨intercalate_members text, length_members text, h.getLast?, h.uncut⟩
  · exact AreMembers.members_intercalate ⟨hne, hlast, huncut⟩

/-- A row of braces and commas is the join of three members, the last of which is empty. -/
theorem members_lossless_braces :
    (∀ m ∈ ["\x7d\x7d".toList, "\x7d".toList, []], ¬ ['\x7d', ','] <:+: m) ∧
      (∀ m ∈ ["\x7d\x7d".toList, "\x7d".toList, []].dropLast, m.getLast? = some '\x7d') ∧
      [','].intercalate ["\x7d\x7d".toList, "\x7d".toList, []] = "\x7d\x7d,\x7d,".toList ∧
      members "\x7d\x7d,\x7d,".toList = ["\x7d\x7d".toList, "\x7d".toList, []] := by
  have huncut : ∀ m ∈ ["\x7d\x7d".toList, "\x7d".toList, []], ¬ ['\x7d', ','] <:+: m := by
    decide
  have hlast : ∀ m ∈ ["\x7d\x7d".toList, "\x7d".toList, []].dropLast,
      m.getLast? = some '\x7d' := by decide
  have hjoin : [','].intercalate ["\x7d\x7d".toList, "\x7d".toList, []] =
      "\x7d\x7d,\x7d,".toList := by decide
  refine ⟨huncut, hlast, hjoin, ?_⟩
  rw [← hjoin]
  exact members_lossless.2 _ (List.cons_ne_nil _ _) huncut hlast

end Unscramble

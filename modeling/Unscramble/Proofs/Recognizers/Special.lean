import Unscramble.Proofs.Pattern.Refines
import Unscramble.Proofs.Recognizers.Entry

/-!
# Special cases among the entry recognizers

Four of the entry recognizers are special cases of the ones right behind them. Three of these pairs
differ in the names of a condition and an object only, which have one letter out of a few in the
special case, and any letters and digits in general; all else is the same, so each run of the one is
a run of the other. In the fourth pair the name of the routine has two characters in the special
case, and a word edge or another character in front of it. That part is missing in general, so the
run of the general one begins behind it.

A search takes the leftmost match and captures something there. Where that is need not be the same
for both, and neither need the captured name. But if the special one captures something, so does the
general one. Hence the special cases do not matter for whether a script has an entry routine, only
for which one it is.

## Main definitions

* `specialCases`: the special cases, with the general one for each.
* `generalRecognizers`: the other entry recognizers.

## Main statements

* `EntryForm.captures_iff`: an entry recognizer captures something where its pattern occurs.
* `EntryForm.occursIn_of_special`: where a special case occurs, so does the general pattern.
* `Lookup.exists_outcome_iff`: a lookup gives something if one of its recognizers does.
* `Lookups.entryName_without_special`: special cases do not matter for whether there is a routine.
-/

namespace Unscramble

open Unscramble.Pattern
open Pattern.Node (word plus)

/-- The entry recognizers that are special cases, with the general one for each, by index. -/
def specialCases : List (ℕ × ℕ) :=
  [(0, 1), (2, 3), (7, 8), (9, 10)]

/-- The entry recognizers that are no special cases. -/
def generalRecognizers : List Recognizer :=
  [1, 3, 4, 5, 6, 8, 10].filterMap (entryRecognizers[·]?)

namespace EntryForm

/-! ### What captures something -/

/-- **An entry recognizer captures something** in the texts in which its pattern occurs. -/
theorem captures_iff {r : Recognizer} {f : EntryForm}
    (h : Pattern.read (r.patternText none) = .ok f.pattern) (text : List Char) :
    (∃ value, r.recognize text none = .ok (some value)) ↔ f.pattern.occursIn text = true := by
  rw [Recognizer.recognize_of_read h, occursIn]
  constructor
  · rintro ⟨value, hvalue⟩
    obtain ⟨q, hq, -⟩ := Option.bind_eq_some_iff.1 (Except.ok.inj hvalue)
    exact Option.isSome_of_eq_some hq
  · intro hoccurs
    obtain ⟨q, hq⟩ := Option.isSome_iff_exists.1 hoccurs
    obtain ⟨w, hw, -⟩ := f.exists_chosen hq
    exact ⟨w, by rw [hq, Option.bind_some, hw]⟩

/-- The entry recognizer at an index reads as the pattern at that index. -/
theorem exists_getElem?_all {i : ℕ} {r : Recognizer} (h : entryRecognizers[i]? = some r) :
    ∃ f, all[i]? = some f ∧ Pattern.read (r.patternText none) = .ok f.pattern := by
  have hread := List.forall₂_iff_get.1 forall₂_read_all
  obtain ⟨hi, rfl⟩ := List.getElem?_eq_some_iff.1 h
  exact ⟨_, List.getElem?_eq_getElem (hread.1 ▸ hi), hread.2 i hi (hread.1 ▸ hi)⟩

/-! ### Special cases -/

theorem has_union (c d : CharClass) (x : Char) : (c.union d).has x = (c.has x || d.has x) := rfl

theorem alnum_of_guard {x : Char}
    (h : (CharClass.union (.only 'c') (.only 's')).has x = true) : alnumClass.has x = true := by
  simp only [has_union, CharClass.has_only, Bool.or_eq_true, beq_iff_eq] at h
  rcases h with rfl | rfl <;> decide

theorem alnum_of_object {x : Char}
    (h : (CharClass.union (.union (.only 'a') (.only 'd')) (.only 'f')).has x = true) :
    alnumClass.has x = true := by
  simp only [has_union, CharClass.has_only, Bool.or_eq_true, beq_iff_eq] at h
  rcases h with (rfl | rfl) | rfl <;> decide

/-- A fixed letter is a name. -/
theorem char_refines_plus {c : Char} {d : CharClass} (h : d.has c = true) :
    (Node.char c).Refines (plus d) :=
  Node.one_refines_plus fun x hx ↦ by
    rw [CharClass.has_only, beq_iff_eq] at hx
    rwa [hx]

theorem forall₂_refines_guarded {condition condition' object object' : Node}
    (hcondition : condition.Refines condition') (hobject : object.Refines object') :
    List.Forall₂ Node.Refines (guarded condition object) (guarded condition' object') :=
  .cons hcondition (.cons (.refl _) (.cons (.refl _) (.cons (.refl _) (.cons (.refl _)
    (.cons hobject .nil)))))

/-- Short names of a condition and an object are names. -/
theorem forall₂_refines_usualGuard :
    List.Forall₂ Node.Refines (wordEdge :: usualGuard) (wordEdge :: anyGuard) :=
  .cons (.refl wordEdge) (forall₂_refines_guarded (Node.one_refines_plus fun _ ↦ alnum_of_guard)
    (Node.one_refines_plus fun _ ↦ alnum_of_object))

/-- What is captured of a call does not depend on the parts in front of it. -/
theorem occursIn_called {before before' : List Node} {group : ℕ}
    (h : List.Forall₂ Node.Refines before before') {s : List Char}
    (hs : (called before group).pattern.occursIn s = true) :
    (called before' group).pattern.occursIn s = true :=
  (Node.refines_cats (Node.forall₂_refines_append h _)).occursIn hs

/-- A word edge, or a character of no name. -/
theorem consumes_nameEdge :
    (Node.alt wordEdge (.one (.not nameClass))).Consumes fun w ↦ w.length ≤ 1 := by
  intro p q hq
  rcases Node.mem_runs_alt.1 hq with hedge | hone
  · obtain ⟨-, rfl⟩ := Node.mem_runs_look.1 hedge
    exact ⟨[], q.rest, rfl, Nat.zero_le 1, (Place.after_nil rfl).symm⟩
  · obtain ⟨x, rest, hp, -, rfl⟩ := Node.mem_runs_one.1 hone
    exact ⟨[x], rest, hp, Nat.le_refl 1, rfl⟩

/-- **Where a special case occurs, so does the general pattern.** -/
theorem occursIn_of_special {i j : ℕ} (h : (i, j) ∈ specialCases) {f g : EntryForm}
    (hf : all[i]? = some f) (hg : all[j]? = some g) {s : List Char}
    (hs : f.pattern.occursIn s = true) : g.pattern.occursIn s = true := by
  simp only [specialCases, List.mem_cons, Prod.mk.injEq, List.not_mem_nil, or_false] at h
  rcases h with ⟨rfl, rfl⟩ | ⟨rfl, rfl⟩ | ⟨rfl, rfl⟩ | ⟨rfl, rfl⟩
  all_goals obtain rfl := Option.some.inj hf; obtain rfl := Option.some.inj hg
  · -- a value is encoded
    have hset := Node.forall₂_refines_append forall₂_refines_usualGuard setTo
    have hencode := Node.forall₂_refines_append hset encode
    exact occursIn_called (Node.forall₂_refines_append hencode [Node.blanks]) hs
  · -- a routine is defined; behind the edge, its name is a word
    have hbehind : occursIn ⟨Node.cats (.group 1 (.cat (.one nameClass) (.one nameClass)) ::
        splitting), []⟩ s = true := occursIn_of_consumes consumes_nameEdge hs
    refine (Node.refines_cats ?_).occursIn hbehind
    exact .cons ((Node.pair_refines_plus nameClass).group 1) (Node.forall₂_refines_refl splitting)
  · -- a parameter is set
    exact occursIn_called (Node.forall₂_refines_append forall₂_refines_usualGuard setTo) hs
  · -- a function is chosen; the condition has its usual name in both
    have hguard : List.Forall₂ Node.Refines (wordEdge :: guarded (.char 'c') (.char 'a'))
        (wordEdge :: guarded (.char 'c') (plus alnumClass)) :=
      .cons (.refl wordEdge) (forall₂_refines_guarded (.refl _) (char_refines_plus rfl))
    have hset := Node.forall₂_refines_append hguard setTo
    exact occursIn_called (Node.forall₂_refines_append hset wrapping) hs

end EntryForm

/-- If a special case captures something, so does the general recognizer. -/
theorem exists_recognize_of_special {i j : ℕ} (h : (i, j) ∈ specialCases) {r s : Recognizer}
    (hr : entryRecognizers[i]? = some r) (hs : entryRecognizers[j]? = some s) {text : List Char}
    (hcaptures : ∃ value, r.recognize text none = .ok (some value)) :
    ∃ value, s.recognize text none = .ok (some value) := by
  obtain ⟨f, hf, hreadf⟩ := EntryForm.exists_getElem?_all hr
  obtain ⟨g, hg, hreadg⟩ := EntryForm.exists_getElem?_all hs
  rw [EntryForm.captures_iff hreadf] at hcaptures
  exact (EntryForm.captures_iff hreadg text).2 (EntryForm.occursIn_of_special h hf hg hcaptures)

/-! ### Lookups -/

/-- **A lookup gives something** if one of its recognizers does, and all of them are patterns. -/
theorem Lookup.exists_outcome_iff {l : Lookup} {text : List Char} {name : Option (List Char)}
    (h : ∀ r ∈ l.recognizers, ∃ found, r.recognize text name = .ok found) :
    (∃ value, (l.run text name).outcome = .ok value) ↔
      ∃ r ∈ l.recognizers, ∃ value, r.recognize text name = .ok (some value) := by
  constructor
  · rintro ⟨value, hvalue⟩
    obtain ⟨r, hr, hcaptured⟩ := exists_of_outcome_run hvalue
    exact ⟨r, hr, value, hcaptured⟩
  · rintro ⟨r, hr, value, hcaptured⟩
    have hends := l.run_ends text name
    generalize (l.run text name).trail = b at hends
    generalize (l.run text name).outcome = x at hends
    cases hends with
    | found _ _ _ => exact ⟨_, rfl⟩
    | missed hall =>
      rw [hall r hr] at hcaptured
      cases hcaptured
    | @broken earlier later r' e split _ refused =>
      obtain ⟨found, hfound⟩ := h r' (split ▸ List.mem_append_right _ List.mem_cons_self)
      rw [hfound] at refused
      cases refused

/-- Each entry recognizer is general, or a special case of one that is. -/
theorem general_or_special : ∀ i < entryRecognizers.length,
    i ∈ [1, 3, 4, 5, 6, 8, 10] ∨ ∃ j ∈ [1, 3, 4, 5, 6, 8, 10], (i, j) ∈ specialCases := by
  decide

/-- If an entry recognizer captures something, so does a general one. -/
theorem exists_general {r : Recognizer} (h : r ∈ entryRecognizers) {text value : List Char}
    (hcaptured : r.recognize text none = .ok (some value)) :
    ∃ s ∈ generalRecognizers, ∃ value, s.recognize text none = .ok (some value) := by
  obtain ⟨i, hi, rfl⟩ := List.mem_iff_getElem.1 h
  have hget := List.getElem?_eq_getElem hi
  rcases general_or_special i hi with hgeneral | ⟨j, hj, hspecial⟩
  · exact ⟨_, List.mem_filterMap.2 ⟨i, hgeneral, hget⟩, value, hcaptured⟩
  · have hbound : ∀ k ∈ [1, 3, 4, 5, 6, 8, 10], k < entryRecognizers.length := by decide
    have hlt := hbound j hj
    refine ⟨_, List.mem_filterMap.2 ⟨j, hj, List.getElem?_eq_getElem hlt⟩, ?_⟩
    exact exists_recognize_of_special hspecial hget (List.getElem?_eq_getElem hlt)
      ⟨value, hcaptured⟩

/-- **Special cases only decide which routine is found.** Where one of the four special recognizers
captures something, so does the general one behind it. So whichever of them are left out, and in
whatever order the others are tried, the same scripts have an entry routine. -/
theorem Lookups.entryName_without_special :
    (∀ (i j : ℕ) (r s : Recognizer), (i, j) ∈ [(0, 1), (2, 3), (7, 8), (9, 10)] →
      entryRecognizers[i]? = some r → entryRecognizers[j]? = some s →
      ∀ script value, r.recognize script none = .ok (some value) →
        ∃ value', s.recognize script none = .ok (some value')) ∧
    ∀ rs : List Recognizer, generalRecognizers ⊆ rs → rs ⊆ entryRecognizers → ∀ script,
      (∃ name, (standard.entryName script).outcome = .ok name) ↔
        ∃ name, ({ standard with entry := rs }.entryName script).outcome = .ok name := by
  refine ⟨fun i j r s hspecial hr hs script value hcaptured ↦
    exists_recognize_of_special hspecial hr hs ⟨value, hcaptured⟩, fun rs hgeneral hsub script ↦ ?_⟩
  have hpattern (r : Recognizer) (hr : r ∈ entryRecognizers) :
      ∃ found, r.recognize script none = .ok found :=
    (EntryForm.exists_recognize hr script).imp fun _ h ↦ h.1
  refine (Lookup.exists_outcome_iff (l := ⟨.entryName, entryRecognizers⟩) hpattern).trans
    (Iff.trans ?_ (Lookup.exists_outcome_iff (l := ⟨.entryName, rs⟩)
      fun r hr ↦ hpattern r (hsub hr)).symm)
  constructor
  · rintro ⟨r, hr, value, hcaptured⟩
    obtain ⟨s, hs, hvalue⟩ := exists_general hr hcaptured
    exact ⟨s, hgeneral hs, hvalue⟩
  · rintro ⟨r, hr, hvalue⟩
    exact ⟨r, hsub hr, hvalue⟩

/-- A script that sets two parameters, the second one in the usual form. -/
def twoSettings : List Char :=
  "b&&x.set(1,Ab(2));c&&a.set(3,Cd(4))".toList

/-- The special recognizer captures the name in the second setting. The general one captures
something too, and there is an entry routine without any special recognizer if there is one with
them. -/
theorem Lookups.entryName_without_special_twoSettings :
    ∃ r s, (7, 8) ∈ [(0, 1), (2, 3), (7, 8), (9, 10)] ∧
      entryRecognizers[7]? = some r ∧ entryRecognizers[8]? = some s ∧
      r.recognize twoSettings none = .ok (some "Cd".toList) ∧
      (∃ value, s.recognize twoSettings none = .ok (some value)) ∧
      generalRecognizers ⊆ generalRecognizers ∧ generalRecognizers ⊆ entryRecognizers ∧
      ((∃ name, (standard.entryName twoSettings).outcome = .ok name) ↔
        ∃ name, ({ standard with entry := generalRecognizers }.entryName twoSettings).outcome =
          .ok name) := by
  have hspecial : (7, 8) ∈ [(0, 1), (2, 3), (7, 8), (9, 10)] := by decide
  obtain ⟨f, hf, hread⟩ := EntryForm.exists_getElem?_all (i := 7) rfl
  obtain rfl := Option.some.inj hf
  have hcaptured := (Recognizer.recognize_of_read hread twoSettings).trans
    (show _ = Except.ok (some "Cd".toList) from rfl)
  have hsub : generalRecognizers ⊆ entryRecognizers := by
    intro r hr
    obtain ⟨i, -, hi⟩ := List.mem_filterMap.1 hr
    exact List.mem_of_getElem? hi
  exact ⟨_, _, hspecial, rfl, rfl, hcaptured,
    entryName_without_special.1 7 8 _ _ hspecial rfl rfl twoSettings _ hcaptured, fun _ h ↦ h, hsub,
    entryName_without_special.2 generalRecognizers (fun _ h ↦ h) hsub twoSettings⟩

end Unscramble

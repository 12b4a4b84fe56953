import Mathlib.Data.List.Basic
import Unscramble.Pattern.Basic

/-!
# Where runs go

A pattern is mostly a sequence of characters, classes and repeated classes, so a run of it is a way
to cut the text to come into the words that these parts consume. Two sets of lemmas say so, one for
each direction.

* From a run to the text: `mem_runs_one`, `mem_runs_many` and the rest give for each kind of part
  exactly the places it reaches. They are what shows that a pattern does *not* match somewhere.
* From the text to the answer: `first_one`, `first_many_greedy`, `first_many_lazy` and the rest
  follow a pattern along a text that is already cut, and yield the place that is preferred to all
  others. A greedy part consumes all it can, so nothing needs to be known about the places that it
  would fall back to; a lazy part stops at once where what follows can go on, so it has to be known
  that what follows could not go on earlier.

Places on the way are named by what was consumed: `p.after w rest` is the place behind `w`.

## Main definitions

* `Place.after`: the place behind a word.
* `Node.plus`, `Node.char`, `Node.word`: parts that templates are made of.

## Main statements

* `mem_runs_many`, `mem_runs_word`: the places that a repeated class and a fixed word reach.
* `first_many_greedy`, `first_many_lazy`: the answer behind a repeated class.
-/

namespace Unscramble.Pattern

variable {β : Type}

/-- A word over all characters but one. -/
theorem CharClass.forall_has_not_only_iff {c : Char} {w : List Char} :
    (∀ x ∈ w, (CharClass.not (.only c)).has x = true) ↔ c ∉ w := by
  simp only [has, has_only, Bool.not_eq_true', beq_eq_false_iff_ne]
  exact ⟨fun h hmem ↦ h c hmem rfl, fun h x hx heq ↦ h (heq ▸ hx)⟩

/-! ### The place behind a word -/

/-- The place behind the word `w`, which `rest` follows. -/
def Place.after (p : Place) (w rest : List Char) : Place where
  last := w.getLast?.or p.last
  rest := rest
  offset := p.offset + w.length
  captures := p.captures
  passed := if w = [] then p.passed else []

namespace Place

variable (p : Place) (w rest : List Char)

@[simp] theorem rest_after : (p.after w rest).rest = rest := rfl

theorem after_nil {p : Place} {rest : List Char} (h : p.rest = rest) : p.after [] rest = p := by
  subst h
  rfl

theorem step_eq_after (c : Char) : p.step c rest = p.after [c] rest := rfl

theorem after_cons_after (c : Char) (v : List Char) :
    (p.after [c] (v ++ rest)).after v rest = p.after (c :: v) rest := by
  cases v with
  | nil => rfl
  | cons d v =>
    simp only [after, List.getLast?_cons_cons, List.length_cons, reduceCtorEq, if_false, mk.injEq,
      true_and, and_true]
    refine ⟨?_, by rw [List.length_nil]; omega⟩
    rw [List.getLast?_eq_some_getLast (List.cons_ne_nil d v)]
    rfl

theorem after_after (u v : List Char) :
    (p.after u (v ++ rest)).after v rest = p.after (u ++ v) rest := by
  induction u generalizing p with
  | nil =>
    cases v with
    | nil => rfl
    | cons c v => simp [after]
  | cons c u ih =>
    rw [List.cons_append, ← after_cons_after, ih, ← List.append_assoc, after_cons_after]

@[simp] theorem captured?_after (group : ℕ) :
    (p.after w rest).captured? group = p.captured? group := rfl

/-- What a group captures when it closes: the word between. -/
theorem captured?_close_self {p : Place} {w rest : List Char} (h : p.rest = w ++ rest) (group : ℕ)
    (q : Place) (hq : q.offset = p.offset + w.length) :
    (q.close group p).captured? group = some w := by
  simp [captured?, close, Capture.text, h, hq]

theorem captured?_close_of_ne {group other : ℕ} (h : other ≠ group) (p q : Place) :
    (q.close other p).captured? group = q.captured? group := by
  simp [captured?, close, beq_eq_false_iff_ne.2 h]

end Place

/-! ### Parts of templates -/

namespace Node

/-- One character. -/
def char (c : Char) : Node :=
  .one (.only c)

/-- The characters of a word, one part each. -/
def word (w : List Char) : List Node :=
  w.map char

/-- At least one character of a class, as many as possible. -/
def plus (c : CharClass) : Node :=
  .cat (.one c) (.many true c)

/-- At least one character of a class, as few as possible. -/
def plusLazy (c : CharClass) : Node :=
  .cat (.one c) (.many false c)

/-- Any white space. -/
def blanks : Node :=
  .many true .blank

/-! ### From a run to the text -/

variable {p q : Place}

theorem mem_runs_one {c : CharClass} :
    q ∈ (one c).runs p ↔ ∃ x rest, p.rest = x :: rest ∧ c.has x = true ∧ q = p.after [x] rest := by
  rw [runs]
  cases p.rest with
  | nil => simp
  | cons x rest => by_cases hx : c.has x = true <;> simp [hx, Place.step_eq_after]

theorem mem_runs_char {c : Char} :
    q ∈ (char c).runs p ↔ ∃ rest, p.rest = c :: rest ∧ q = p.after [c] rest := by
  simp only [char, mem_runs_one, CharClass.has_only, beq_iff_eq]
  constructor
  · rintro ⟨x, rest, h, rfl, hq⟩
    exact ⟨rest, h, hq⟩
  · rintro ⟨rest, h, hq⟩
    exact ⟨c, rest, h, rfl, hq⟩

theorem mem_spanFrom {c : CharClass} {s : List Char} (h : p.rest = s) :
    q ∈ spanFrom c s p ↔
      ∃ w rest, s = w ++ rest ∧ (∀ x ∈ w, c.has x = true) ∧ q = p.after w rest := by
  -- along the text: the place itself is reached by the empty word, and the places behind the first
  -- character are those behind words that begin with it
  induction s generalizing p with
  | nil =>
    simp only [spanFrom, List.mem_singleton]
    constructor
    · rintro rfl
      exact ⟨[], [], rfl, by simp, (Place.after_nil h).symm⟩
    · rintro ⟨w, rest, hs, -, rfl⟩
      obtain ⟨rfl, rfl⟩ := List.append_eq_nil_iff.1 hs.symm
      exact Place.after_nil h
  | cons x s ih =>
    rw [spanFrom]
    by_cases hx : c.has x = true
    · rw [if_pos hx, List.mem_cons, ih (by rfl)]
      constructor
      · rintro (rfl | ⟨w, rest, rfl, hw, rfl⟩)
        · exact ⟨[], x :: s, rfl, by simp, (Place.after_nil h).symm⟩
        · refine ⟨x :: w, rest, rfl, ?_, Place.after_cons_after p rest x w⟩
          rintro y (_ | ⟨_, hy⟩)
          exacts [hx, hw y hy]
      · rintro ⟨w, rest, hs, hw, rfl⟩
        cases w with
        | nil => exact .inl (Place.after_nil (h.trans hs))
        | cons y w =>
          obtain ⟨rfl, rfl⟩ := List.cons.inj hs
          exact .inr ⟨w, rest, rfl, fun z hz ↦ hw z (List.mem_cons_of_mem x hz),
            (Place.after_cons_after p rest x w).symm⟩
    · rw [if_neg hx, List.mem_singleton]
      constructor
      · rintro rfl
        exact ⟨[], x :: s, rfl, by simp, (Place.after_nil h).symm⟩
      · rintro ⟨w, rest, hs, hw, rfl⟩
        cases w with
        | nil => exact Place.after_nil (h.trans hs)
        | cons y w =>
          obtain ⟨rfl, rfl⟩ := List.cons.inj hs
          exact absurd (hw x List.mem_cons_self) hx

/-- **A repeated class** reaches every place behind a word of the class. -/
theorem mem_runs_many {greedy : Bool} {c : CharClass} :
    q ∈ (many greedy c).runs p ↔
      ∃ w rest, p.rest = w ++ rest ∧ (∀ x ∈ w, c.has x = true) ∧ q = p.after w rest := by
  rw [runs]
  cases greedy with
  | true => rw [if_pos rfl, List.mem_reverse, mem_spanFrom rfl]
  | false => rw [if_neg (by decide), mem_spanFrom rfl]

theorem mem_runs_look {l : Look} : q ∈ (look l).runs p ↔ l.holds p.last p.rest = true ∧ q = p := by
  rw [runs]
  by_cases h : l.holds p.last p.rest = true <;> simp [h]

theorem mem_runs_cat {a b : Node} : q ∈ (cat a b).runs p ↔ ∃ m ∈ a.runs p, q ∈ b.runs m := by
  rw [runs_cat, List.mem_flatMap]

/-- **A class that occurs at least once** reaches every place behind a word of the class that is not
empty. -/
theorem mem_runs_plus {c : CharClass} :
    q ∈ (plus c).runs p ↔
      ∃ w rest, p.rest = w ++ rest ∧ w ≠ [] ∧ (∀ x ∈ w, c.has x = true) ∧ q = p.after w rest := by
  rw [plus, mem_runs_cat]
  constructor
  · rintro ⟨m, hm, hq⟩
    obtain ⟨x, rest, hp, hx, rfl⟩ := mem_runs_one.1 hm
    obtain ⟨w, rest', hrest, hw, rfl⟩ := mem_runs_many.1 hq
    rw [Place.rest_after] at hrest
    subst hrest
    refine ⟨x :: w, rest', hp, List.cons_ne_nil x w, List.forall_mem_cons.2 ⟨hx, hw⟩, ?_⟩
    rw [Place.after_cons_after]
  · rintro ⟨w, rest, hp, hne, hw, rfl⟩
    obtain ⟨x, w, rfl⟩ := List.exists_cons_of_ne_nil hne
    obtain ⟨hx, hw⟩ := List.forall_mem_cons.1 hw
    refine ⟨p.after [x] (w ++ rest), mem_runs_one.2 ⟨x, w ++ rest, hp, hx, rfl⟩,
      mem_runs_many.2 ⟨w, rest, rfl, hw, ?_⟩⟩
    rw [Place.after_cons_after]

theorem mem_runs_group {i : ℕ} {a : Node} :
    q ∈ (group i a).runs p ↔ ∃ m ∈ a.runs p, q = m.close i p := by
  rw [runs_group, List.mem_map]
  simp only [eq_comm]

theorem mem_runs_alt {a b : Node} : q ∈ (alt a b).runs p ↔ q ∈ a.runs p ∨ q ∈ b.runs p := by
  rw [runs_alt, List.mem_append]

theorem runs_cats_cons (a : Node) (as : List Node) (p : Place) :
    (cats (a :: as)).runs p = (a.runs p).flatMap (cats as).runs := by
  cases as with
  | nil =>
    have h : (cats []).runs = fun q ↦ [q] := funext fun q ↦ runs_empty q
    rw [h, List.flatMap_singleton']
    rfl
  | cons b bs => rfl

theorem mem_runs_cats_cons {a : Node} {as : List Node} :
    q ∈ (cats (a :: as)).runs p ↔ ∃ m ∈ a.runs p, q ∈ (cats as).runs m := by
  rw [runs_cats_cons, List.mem_flatMap]

/-- Parts can run if the first reaches a place from which the others can. -/
theorem exists_mem_runs_cats_cons {a : Node} {as : List Node} {m : Place} (hm : m ∈ a.runs p)
    (h : ∃ q, q ∈ (cats as).runs m) : ∃ q, q ∈ (cats (a :: as)).runs p :=
  h.imp fun _ hq ↦ mem_runs_cats_cons.2 ⟨m, hm, hq⟩

/-- **A fixed word** reaches the place behind it, if the text begins with it. -/
theorem mem_runs_word {w : List Char} {as : List Node} :
    q ∈ (cats (word w ++ as)).runs p ↔
      ∃ rest, p.rest = w ++ rest ∧ q ∈ (cats as).runs (p.after w rest) := by
  induction w generalizing p with
  | nil =>
    constructor
    · intro h
      exact ⟨p.rest, rfl, by rwa [Place.after_nil rfl]⟩
    · rintro ⟨rest, h, hq⟩
      rwa [Place.after_nil (show p.rest = rest from h)] at hq
  | cons c w ih =>
    rw [word, List.map_cons, List.cons_append, mem_runs_cats_cons]
    constructor
    · rintro ⟨m, hm, hq⟩
      obtain ⟨rest, hp, rfl⟩ := mem_runs_char.1 hm
      obtain ⟨rest', hr, hq'⟩ := ih.1 hq
      rw [Place.rest_after] at hr
      subst hr
      exact ⟨rest', hp, by rwa [Place.after_cons_after] at hq'⟩
    · rintro ⟨rest, hp, hq⟩
      refine ⟨p.after [c] (w ++ rest), mem_runs_char.2 ⟨w ++ rest, hp, rfl⟩, ih.2 ⟨rest, rfl, ?_⟩⟩
      rwa [Place.after_cons_after]

theorem mem_runs_cats_word {w : List Char} :
    q ∈ (cats (word w)).runs p ↔ ∃ rest, p.rest = w ++ rest ∧ q = p.after w rest := by
  rw [← List.append_nil (word w), mem_runs_word]
  simp only [cats, runs_empty, List.mem_singleton]

/-! ### From the text to the answer -/

variable {k : Place → Option β}

theorem first_cats_nil : (cats []).first p k = k p := rfl

theorem first_cats_cons (a : Node) (as : List Node) :
    (cats (a :: as)).first p k = a.first p fun q ↦ (cats as).first q k := by
  cases as with
  | nil => rfl
  | cons b bs => rfl

theorem first_eq_none_iff {node : Node} :
    node.first p k = none ↔ ∀ q ∈ node.runs p, k q = none := by
  rw [first_eq, List.findSome?_eq_none_iff]

theorem first_one {c : CharClass} {x : Char} {rest : List Char} (h : p.rest = x :: rest)
    (hx : c.has x = true) : (one c).first p k = k (p.after [x] rest) := by
  rw [first, h]
  show (if c.has x then _ else _) = _
  rw [if_pos hx]
  rfl

theorem first_char {c : Char} {rest : List Char} (h : p.rest = c :: rest) :
    (char c).first p k = k (p.after [c] rest) :=
  first_one h (by simp)

theorem first_group {i : ℕ} {a : Node} :
    (group i a).first p k = a.first p fun q ↦ k (q.close i p) := rfl

theorem first_look {l : Look} (h : l.holds p.last p.rest = true) : (look l).first p k = k p := by
  rw [first, if_pos h]

/-- An alternative that leads nowhere is passed over. -/
theorem first_alt_right {a b : Node} (h : a.first p k = none) :
    (alt a b).first p k = b.first p k := by
  rw [first, h]

theorem first_word {w rest : List Char} {as : List Node} (h : p.rest = w ++ rest) :
    (cats (word w ++ as)).first p k = (cats as).first (p.after w rest) k := by
  induction w generalizing p with
  | nil => rw [Place.after_nil (show p.rest = rest from h)]; rfl
  | cons c w ih =>
    rw [List.cons_append] at h
    rw [word, List.map_cons, List.cons_append, first_cats_cons, first_char h]
    show (cats (word w ++ as)).first _ k = _
    rw [ih rfl, Place.after_cons_after]

theorem farthest_eq_some {c : CharClass} {w rest : List Char} {b : β} (h : p.rest = w ++ rest)
    (hw : ∀ x ∈ w, c.has x = true) (hrest : ∀ x ∈ rest.head?, c.has x = false)
    (hk : k (p.after w rest) = some b) : farthest c k (w ++ rest) p = some b := by
  induction w generalizing p with
  | nil =>
    -- the class cannot go on here
    rw [Place.after_nil (show p.rest = rest from h)] at hk
    cases rest with
    | nil => rw [List.nil_append, farthest, hk]
    | cons x rest => rw [List.nil_append, farthest, hrest x rfl, if_neg (by decide), hk]
  | cons x w ih =>
    have hgo : farthest c k (w ++ rest) (p.after [x] (w ++ rest)) = some b :=
      ih rfl (fun y hy ↦ hw y (List.mem_cons_of_mem x hy)) (by rwa [Place.after_cons_after])
    rw [List.cons_append, farthest, if_pos (hw x List.mem_cons_self), Place.step_eq_after, hgo]

/-- **A greedy class** consumes all that it can, if what follows can go on there. -/
theorem first_many_greedy {c : CharClass} {w rest : List Char} {b : β} (h : p.rest = w ++ rest)
    (hw : ∀ x ∈ w, c.has x = true) (hrest : ∀ x ∈ rest.head?, c.has x = false)
    (hk : k (p.after w rest) = some b) : (many true c).first p k = some b := by
  rw [first, if_pos rfl, h]
  exact farthest_eq_some h hw hrest hk

theorem first_plus {c : CharClass} {w rest : List Char} {b : β} (h : p.rest = w ++ rest)
    (hne : w ≠ []) (hw : ∀ x ∈ w, c.has x = true) (hrest : ∀ x ∈ rest.head?, c.has x = false)
    (hk : k (p.after w rest) = some b) : (plus c).first p k = some b := by
  obtain ⟨x, w, rfl⟩ := List.exists_cons_of_ne_nil hne
  rw [List.cons_append] at h
  rw [plus, first, first_one h (hw x List.mem_cons_self)]
  refine first_many_greedy rfl (fun y hy ↦ hw y (List.mem_cons_of_mem x hy)) hrest ?_
  rwa [Place.after_cons_after]

theorem nearest_eq_some {c : CharClass} {w rest : List Char} {b : β} (h : p.rest = w ++ rest)
    (hw : ∀ x ∈ w, c.has x = true) (hk : k (p.after w rest) = some b)
    (hnone : ∀ u v, w = u ++ v → v ≠ [] → k (p.after u (v ++ rest)) = none) :
    nearest c k (w ++ rest) p = some b := by
  induction w generalizing p with
  | nil =>
    rw [Place.after_nil (show p.rest = rest from h)] at hk
    cases rest with
    | nil => rw [List.nil_append, nearest, hk]
    | cons x rest =>
      rw [List.nil_append, nearest]
      by_cases hx : c.has x = true
      · rw [if_pos hx, hk]
      · rw [if_neg hx, hk]
  | cons x w ih =>
    -- stopping here leads nowhere, so the class takes another character
    have hstart : k p = none := by
      have := hnone [] (x :: w) rfl (List.cons_ne_nil x w)
      rwa [Place.after_nil h] at this
    have hgo : nearest c k (w ++ rest) (p.after [x] (w ++ rest)) = some b := by
      refine ih rfl (fun y hy ↦ hw y (List.mem_cons_of_mem x hy))
        (by rwa [Place.after_cons_after]) fun u v huv hv ↦ ?_
      rw [huv, List.append_assoc, Place.after_cons_after]
      exact hnone (x :: u) v (by rw [huv]; rfl) hv
    rw [List.cons_append, nearest, if_pos (hw x List.mem_cons_self), hstart, Place.step_eq_after,
      hgo]

/-- **A lazy class** consumes no more than it must: it stops where what follows can go on for the
first time. -/
theorem first_many_lazy {c : CharClass} {w rest : List Char} {b : β} (h : p.rest = w ++ rest)
    (hw : ∀ x ∈ w, c.has x = true) (hk : k (p.after w rest) = some b)
    (hnone : ∀ u v, w = u ++ v → v ≠ [] → k (p.after u (v ++ rest)) = none) :
    (many false c).first p k = some b := by
  rw [first, if_neg (by decide), h]
  exact nearest_eq_some h hw hk hnone

theorem first_plusLazy {c : CharClass} {w rest : List Char} {b : β} (h : p.rest = w ++ rest)
    (hne : w ≠ []) (hw : ∀ x ∈ w, c.has x = true) (hk : k (p.after w rest) = some b)
    (hnone : ∀ u v, w = u ++ v → u ≠ [] → v ≠ [] → k (p.after u (v ++ rest)) = none) :
    (plusLazy c).first p k = some b := by
  obtain ⟨x, w, rfl⟩ := List.exists_cons_of_ne_nil hne
  rw [List.cons_append] at h
  rw [plusLazy, first, first_one h (hw x List.mem_cons_self)]
  refine first_many_lazy rfl (fun y hy ↦ hw y (List.mem_cons_of_mem x hy))
    (by rwa [Place.after_cons_after]) fun u v huv hv ↦ ?_
  rw [huv, List.append_assoc, Place.after_cons_after]
  exact hnone (x :: u) v (by rw [huv]; rfl) (List.cons_ne_nil x u) hv

end Node

end Unscramble.Pattern

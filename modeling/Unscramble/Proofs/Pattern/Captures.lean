import Unscramble.Proofs.Pattern.Runs

/-!
# What a group captures

A pattern that repeats nothing but characters of a class goes along the text part by part. Each part
consumes a piece of the text, and a part without a group leaves what the group has captured as it
is. So what a group captures in a sequence is the piece that its body consumes, whatever stands
before it, if the group does not occur again behind it.

## Main definitions

* `isFree`: nothing but characters of a class is repeated, and a group does not occur.
* `Consumes`: a run consumes a word of some kind, and does nothing else.

## Main statements

* `captured?_of_isFree`: a run without the group leaves its capture as it is.
* `exists_of_mem_runs_group`: what a group in a sequence captures.
-/

namespace Unscramble.Pattern.Node

/-- The pattern repeats nothing but characters of a class, and the group does not occur in it. -/
def isFree (i : ℕ) : Node → Bool
  | empty | one _ | many _ _ | look _ | checkpoint _ => true
  | group j a => j != i && a.isFree i
  | cat a b | alt a b => a.isFree i && b.isFree i
  | star _ _ => false

variable {node : Node} {p q : Place} {i : ℕ}

/-- **A run without the group** leaves what the group has captured as it is. -/
theorem captured?_of_isFree (h : node.isFree i = true) (hq : q ∈ node.runs p) :
    q.captured? i = p.captured? i := by
  induction node generalizing p q with
  | empty =>
    rw [runs_empty, List.mem_singleton] at hq
    rw [hq]
  | one c =>
    obtain ⟨x, rest, -, -, rfl⟩ := mem_runs_one.1 hq
    rfl
  | many greedy c =>
    obtain ⟨w, rest, -, -, rfl⟩ := mem_runs_many.1 hq
    rfl
  | look l =>
    obtain ⟨-, rfl⟩ := mem_runs_look.1 hq
    rfl
  | checkpoint id =>
    rw [runs] at hq
    split at hq
    · cases hq
    · rw [List.mem_singleton] at hq
      rw [hq]
      rfl
  | group j a ih =>
    obtain ⟨hj, ha⟩ := Bool.and_eq_true_iff.1 h
    obtain ⟨m, hm, rfl⟩ := mem_runs_group.1 hq
    rw [Place.captured?_close_of_ne (by simpa using hj), ih ha hm]
  | cat a b iha ihb =>
    obtain ⟨ha, hb⟩ := Bool.and_eq_true_iff.1 h
    obtain ⟨m, hm, hq⟩ := mem_runs_cat.1 hq
    rw [ihb hb hq, iha ha hm]
  | alt a b iha ihb =>
    obtain ⟨ha, hb⟩ := Bool.and_eq_true_iff.1 h
    rcases mem_runs_alt.1 hq with hq | hq
    · exact iha ha hq
    · exact ihb hb hq
  | star greedy a => cases h

/-- The run through a sequence, cut at some place. -/
theorem mem_runs_cats_append {as bs : List Node} :
    q ∈ (cats (as ++ bs)).runs p ↔ ∃ m ∈ (cats as).runs p, q ∈ (cats bs).runs m := by
  induction as generalizing p with
  | nil => simp [cats, runs_empty]
  | cons a as ih =>
    rw [List.cons_append, mem_runs_cats_cons]
    constructor
    · rintro ⟨m₁, h₁, hq⟩
      obtain ⟨m, hm, hq⟩ := ih.1 hq
      exact ⟨m, mem_runs_cats_cons.2 ⟨m₁, h₁, hm⟩, hq⟩
    · rintro ⟨m, hm, hq⟩
      obtain ⟨m₁, h₁, hm⟩ := mem_runs_cats_cons.1 hm
      exact ⟨m₁, h₁, ih.2 ⟨m, hm, hq⟩⟩

/-! ### Groups -/

/-- A run of the pattern consumes a word with the property, and does nothing else. -/
def Consumes (node : Node) (P : List Char → Prop) : Prop :=
  ∀ p q, q ∈ node.runs p → ∃ w rest, p.rest = w ++ rest ∧ P w ∧ q = p.after w rest

theorem consumes_many (greedy : Bool) (c : CharClass) :
    (many greedy c).Consumes fun w ↦ ∀ x ∈ w, c.has x = true :=
  fun _ _ h ↦ mem_runs_many.1 h

theorem consumes_plus (c : CharClass) :
    (plus c).Consumes fun w ↦ w ≠ [] ∧ ∀ x ∈ w, c.has x = true := by
  intro p q h
  obtain ⟨w, rest, hp, hne, hw, hq⟩ := mem_runs_plus.1 h
  exact ⟨w, rest, hp, ⟨hne, hw⟩, hq⟩

theorem consumes_plusLazy (c : CharClass) :
    (plusLazy c).Consumes fun w ↦ w ≠ [] ∧ ∀ x ∈ w, c.has x = true := by
  intro p q h
  obtain ⟨m, hm, hq⟩ := mem_runs_cat.1 h
  obtain ⟨x, s, hp, hx, rfl⟩ := mem_runs_one.1 hm
  obtain ⟨w, rest, hs, hw, rfl⟩ := mem_runs_many.1 hq
  obtain rfl : s = w ++ rest := hs
  exact ⟨x :: w, rest, hp, ⟨List.cons_ne_nil x w, List.forall_mem_cons.2 ⟨hx, hw⟩⟩,
    Place.after_cons_after p rest x w⟩

/-- Two characters of a class. -/
theorem consumes_pair (c : CharClass) :
    (cat (one c) (one c)).Consumes fun w ↦ w ≠ [] ∧ ∀ x ∈ w, c.has x = true := by
  intro p q h
  obtain ⟨m, hm, hq⟩ := mem_runs_cat.1 h
  obtain ⟨x, s, hp, hx, rfl⟩ := mem_runs_one.1 hm
  obtain ⟨y, rest, hs, hy, rfl⟩ := mem_runs_one.1 hq
  obtain rfl : s = y :: rest := hs
  have hword : ∀ z ∈ [x, y], c.has z = true :=
    List.forall_mem_cons.2 ⟨hx, List.forall_mem_singleton.2 hy⟩
  exact ⟨[x, y], rest, hp, ⟨List.cons_ne_nil x _, hword⟩, Place.after_cons_after p rest x [y]⟩

/-- **What a group in a sequence captures**: the word that its body consumes, if the group does not
occur behind it. -/
theorem exists_of_mem_runs_group {as bs : List Node} {body : Node} {P : List Char → Prop}
    (hbody : body.Consumes P) (hbs : (cats bs).isFree i = true)
    (hq : q ∈ (cats (as ++ .group i body :: bs)).runs p) :
    ∃ m ∈ (cats as).runs p, ∃ w rest, m.rest = w ++ rest ∧ P w ∧
      q ∈ (cats bs).runs ((m.after w rest).close i m) ∧ q.captured? i = some w := by
  obtain ⟨m, hm, hq⟩ := mem_runs_cats_append.1 hq
  obtain ⟨m₁, hm₁, hq⟩ := mem_runs_cats_cons.1 hq
  obtain ⟨m₂, hm₂, rfl⟩ := mem_runs_group.1 hm₁
  obtain ⟨w, rest, hrest, hw, rfl⟩ := hbody m m₂ hm₂
  refine ⟨m, hm, w, rest, hrest, hw, hq, ?_⟩
  rw [captured?_of_isFree hbs hq]
  exact Place.captured?_close_self hrest i _ rfl

end Unscramble.Pattern.Node

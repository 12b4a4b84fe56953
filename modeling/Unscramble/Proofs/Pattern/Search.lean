import Unscramble.Proofs.Pattern.Runs

/-!
# Following a text

Most of a template is fixed: characters, classes that stand alone, and greedy classes. `Node.walk`
goes through such parts without ever coming back, each taking all it can, and leaves the text behind
them. Where it gets through, so does the pattern, and by the same way: a greedy class prefers to
take all, and there is no reason to take less if what follows can go on. Walking computes, so a
fixed piece of text is followed by evaluation, whatever comes after it.

A search is a walk from a later place. It passes over the places where the pattern has no run, and
finds the answer at the first place where it has one.

## Main definitions

* `Node.walk`: the text behind parts that each take all they can.

## Main statements

* `first_of_walk`: parts that can be walked through are followed that way.
* `search_append`: a search passes over a text in which no match begins.
-/

namespace Unscramble.Pattern.Node

/-! ### What a text goes on with -/

theorem mem_head?_append_cons {u r : List Char} {x c : Char} (h : x ∈ (u ++ c :: r).head?) :
    x ∈ u ∨ x = c := by
  cases u with
  | nil => exact .inr (Option.some.inj h).symm
  | cons y u => exact .inl (Option.some.inj h ▸ List.mem_cons_self)

theorem mem_of_mem_head?_append {u r : List Char} {x : Char} (hu : u ≠ [])
    (h : x ∈ (u ++ r).head?) : x ∈ u := by
  cases u with
  | nil => exact absurd rfl hu
  | cons y u => exact Option.some.inj h ▸ List.mem_cons_self

/-! ### Walking -/

/-- The text behind parts that each take all they can, if they get through. Only parts that take
characters one by one can be walked. -/
def walk : List Node → List Char → Option (List Char)
  | [], s => some s
  | .one c :: as, x :: s => if c.has x then walk as s else none
  | .many true c :: as, s => walk as (s.dropWhile c.has)
  | .cat (.one c) (.many true d) :: as, x :: s =>
    if c.has x then walk as (s.dropWhile d.has) else none
  | _, _ => none

/-- What a class drops is a word of it, and the text goes on with something else. -/
theorem exists_dropWhile (c : CharClass) (s : List Char) :
    ∃ w, s = w ++ s.dropWhile c.has ∧ (∀ x ∈ w, c.has x = true) ∧
      ∀ x ∈ (s.dropWhile c.has).head?, c.has x = false := by
  refine ⟨s.takeWhile c.has, List.takeWhile_append_dropWhile.symm, fun x hx ↦ ?_, fun x hx ↦ ?_⟩
  · exact List.all_eq_true.1 List.all_takeWhile x hx
  · have h := List.head?_dropWhile_not c.has s
    rw [Option.mem_def.1 hx] at h
    simpa using h

/-- **Parts that can be walked through are followed that way**, if what comes after them can go on
behind the text that they take. -/
theorem first_of_walk {as : List Node} {s rest : List Char} (h : walk as s = some rest) :
    ∃ w, s = w ++ rest ∧ ∀ {β : Type} {p : Place} {k : Place → Option β} {b : β} {bs : List Node},
      p.rest = s → (cats bs).first (p.after w rest) k = some b →
        (cats (as ++ bs)).first p k = some b := by
  -- by the cases of `walk`: no part is left, a class, a greedy class, or both in one part
  fun_induction walk as s with
  | case1 s =>
    obtain rfl : s = rest := Option.some.inj h
    exact ⟨[], rfl, fun hp hk ↦ by rwa [Place.after_nil hp] at hk⟩
  | case2 c as x s hx ih =>
    obtain ⟨w, hs, hgo⟩ := ih h
    refine ⟨x :: w, by rw [hs]; rfl, fun hp hk ↦ ?_⟩
    subst hs
    rw [List.cons_append, first_cats_cons, first_one hp hx]
    exact hgo rfl (by rwa [Place.after_cons_after])
  | case3 => cases h
  | case4 c as s ih =>
    obtain ⟨u, hu, huc, hhead⟩ := exists_dropWhile c s
    obtain ⟨w, hs, hgo⟩ := ih h
    rw [hs] at hu hhead
    refine ⟨u ++ w, by rw [hu, List.append_assoc], fun hp hk ↦ ?_⟩
    rw [List.cons_append, first_cats_cons]
    refine first_many_greedy (hp.trans hu) huc hhead (hgo hs.symm ?_)
    rwa [Place.after_after]
  | case5 c d as x s hx ih =>
    obtain ⟨u, hu, huc, hhead⟩ := exists_dropWhile d s
    obtain ⟨w, hs, hgo⟩ := ih h
    rw [hs] at hu hhead
    refine ⟨x :: u ++ w, by rw [hu]; simp, fun {β p k b bs} hp hk ↦ ?_⟩
    rw [List.cons_append, first_cats_cons, first, first_one hp hx]
    refine first_many_greedy (p := p.after [x] s) hu huc hhead (hgo hs.symm ?_)
    subst hu
    rwa [Place.after_after, ← List.append_assoc, Place.after_cons_after]
  | case6 => cases h
  | case7 => cases h

/-! ### Searching -/

variable {p : Place} {node : Node} {last : Option Char} {offset : ℕ}

/-- If a condition is the first answer of a pattern, it holds at the best place. So a condition on
the best place can be followed along the pattern without naming the place. -/
theorem exists_of_first {P : Place → Prop} (h : node.first p (fun q ↦ some (P q)) = some True) :
    ∃ q, node.first p some = some q ∧ P q := by
  rw [first_eq] at h
  rw [first_eq, findSome?_some]
  cases hruns : node.runs p with
  | nil => rw [hruns] at h; cases h
  | cons q qs =>
    rw [hruns, List.findSome?_cons] at h
    exact ⟨q, rfl, of_eq_true (Option.some.inj h)⟩

/-- A match that begins here is the answer. -/
theorem search_of_first {s : List Char} {q : Place}
    (h : node.first ⟨last, s, offset, [], []⟩ some = some q) :
    node.search last offset s = some q := by
  cases s with
  | nil => exact h
  | cons c s => rw [search, h]

/-- The last character of a text that begins with `c` is that of the rest, or `c` itself. -/
theorem getLast?_or_some (c : Char) (u : List Char) (last : Option Char) :
    u.getLast?.or (some c) = (c :: u).getLast?.or last := by
  cases u with
  | nil => rfl
  | cons d u => rw [List.getLast?_cons_cons, List.getLast?_eq_some_getLast (by simp)]; rfl

/-- A search that has passed over a character starts from the same places. -/
theorem start_cons (c : Char) (u v : List Char) (last : Option Char) (offset : ℕ) :
    (⟨(c :: u).getLast?.or last, v, offset + (c :: u).length, [], []⟩ : Place) =
      ⟨u.getLast?.or (some c), v, offset + 1 + u.length, [], []⟩ := by
  rw [getLast?_or_some, List.length_cons, Nat.add_comm u.length, Nat.add_assoc]

/-- **A search passes over a text** in which no match begins. -/
theorem search_append {before s : List Char}
    (h : ∀ u v, before = u ++ v → v ≠ [] → ∀ q : Place,
      q ∉ node.runs ⟨u.getLast?.or last, v ++ s, offset + u.length, [], []⟩) :
    node.search last offset (before ++ s) =
      node.search (before.getLast?.or last) (offset + before.length) s := by
  induction before generalizing last offset with
  | nil => rfl
  | cons c before ih =>
    -- no match begins here, so the search goes on with `c` as the last character
    have hhere : node.runs ⟨last, c :: (before ++ s), offset, [], []⟩ = [] :=
      List.eq_nil_iff_forall_not_mem.2 (h [] (c :: before) rfl (List.cons_ne_nil c before))
    rw [List.cons_append, search_cons, hhere, List.head?_nil, Option.none_or, ih,
      getLast?_or_some, List.length_cons, Nat.add_right_comm, Nat.add_assoc]
    intro u v huv hv q
    rw [← start_cons]
    exact h (c :: u) v (by rw [huv]; rfl) hv q

end Unscramble.Pattern.Node

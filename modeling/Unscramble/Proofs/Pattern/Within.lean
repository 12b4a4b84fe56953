import Mathlib.Data.List.Infix
import Unscramble.Proofs.Pattern.Answer

/-!
# A search stays in its text

What is to come at a place of a search is always an end of the searched text, and what a group has
captured begins at such a place. So every captured text is a contiguous piece of the searched one,
whatever the pattern is. This needs every kind of part, loops over any body included, and so it is
an invariant of runs: each part keeps it, if its own parts do.

## Main definitions

* `Place.Within`: a place in a text, with what is captured there.

## Main statements

* `Node.forall_mem_loopFrom`: what the body of a loop keeps, the loop keeps.
* `Node.within_of_mem_runs`: every pattern stays in the text.
* `Pattern.within_of_find?`, `Place.Within.infix_of_captured?`: so what a search captures is a piece
  of its text.
-/

namespace Unscramble.Pattern

variable {text w rest : List Char} {p q : Place} {i : ℕ}

namespace Place

/-- A place in a text: what is to come is an end of the text, and so is what was to come where a
group began. -/
structure Within (text : List Char) (p : Place) : Prop where
  rest : p.rest <:+ text
  tails : ∀ c ∈ p.captures, c.tail <:+ text

theorem Within.after (hp : p.Within text) (h : p.rest = w ++ rest) :
    (p.after w rest).Within text :=
  ⟨(List.suffix_append w rest).trans (h ▸ hp.rest), hp.tails⟩

theorem Within.close (hq : q.Within text) (hp : p.Within text) (i : ℕ) :
    (q.close i p).Within text :=
  ⟨hq.rest, List.forall_mem_cons.2 ⟨hp.rest, hq.tails⟩⟩

/-- **What is captured in a text** is a contiguous piece of it. -/
theorem Within.infix_of_captured? (hp : p.Within text) (h : p.captured? i = some w) :
    w <:+: text := by
  obtain ⟨c, hc, rfl⟩ := Option.map_eq_some_iff.1 h
  have htail : c.tail <:+ text := hp.tails c (List.mem_of_find?_eq_some hc)
  exact (List.take_prefix c.length c.tail).isInfix.trans htail.isInfix

end Place

namespace Node

/-- What is reached from each of several places has a property if all that was reached before has
it. -/
theorem forall_mem_foldl {P : Place → Prop} {next : List ℕ → Place → List ℕ × List Place}
    {further : List Place} (hnext : ∀ m ∈ further, ∀ seen, ∀ q ∈ (next seen m).2, P q)
    {acc : List ℕ × List Place} (hacc : ∀ q ∈ acc.2, P q) :
    ∀ q ∈ (further.foldl (fun (seen, reached) m ↦ ((next seen m).1, reached ++ (next seen m).2))
      acc).2, P q := by
  induction further generalizing acc with
  | nil => exact hacc
  | cons m further ih =>
    obtain ⟨hm, hfurther⟩ := List.forall_mem_cons.1 hnext
    exact ih hfurther (List.forall_mem_append.2 ⟨hacc, hm acc.1⟩)

/-- **What the body keeps, a loop keeps**: by induction on the characters to come, since every
further round has consumed one. -/
theorem forall_mem_loopFrom {P : Place → Prop} {body : Place → List Place}
    (hbody : ∀ p, P p → ∀ q ∈ body p, P q) (greedy : Bool) (fuel : ℕ) (seen : List ℕ) (hp : P p) :
    ∀ q ∈ (loopFrom greedy body fuel seen p).2, P q := by
  induction fuel generalizing seen p with
  | zero =>
    rw [loopFrom]
    split
    · simp
    · exact List.forall_mem_singleton.2 hp
  | succ fuel ih =>
    rw [loopFrom]
    split
    · simp
    · have hfurther : ∀ m ∈ (body p).filter fun q ↦ p.offset < q.offset, ∀ seen,
          ∀ q ∈ (loopFrom greedy body fuel seen m).2, P q :=
        fun m hm seen ↦ ih seen (hbody p hp m (List.mem_of_mem_filter hm))
      have hreached := @forall_mem_foldl P _ _ hfurther (p.offset :: seen, []) (by simp)
      cases greedy with
      | true => exact List.forall_mem_append.2 ⟨hreached, List.forall_mem_singleton.2 hp⟩
      | false => exact List.forall_mem_cons.2 ⟨hp, hreached⟩

/-- **Every pattern stays in the text.** -/
theorem within_of_mem_runs {node : Node} (hp : p.Within text) (hq : q ∈ node.runs p) :
    q.Within text := by
  induction node generalizing p q with
  | empty =>
    rw [runs_empty, List.mem_singleton] at hq
    exact hq ▸ hp
  | one c =>
    obtain ⟨x, rest, h, -, rfl⟩ := mem_runs_one.1 hq
    exact hp.after h
  | many greedy c =>
    obtain ⟨w, rest, h, -, rfl⟩ := mem_runs_many.1 hq
    exact hp.after h
  | look l =>
    obtain ⟨-, rfl⟩ := mem_runs_look.1 hq
    exact hp
  | checkpoint id =>
    rw [runs] at hq
    split at hq
    · cases hq
    · rw [List.mem_singleton] at hq
      exact hq ▸ ⟨hp.rest, hp.tails⟩
  | group j a ih =>
    obtain ⟨m, hm, rfl⟩ := mem_runs_group.1 hq
    exact (ih hp hm).close hp j
  | cat a b iha ihb =>
    obtain ⟨m, hm, hq⟩ := mem_runs_cat.1 hq
    exact ihb (iha hp hm) hq
  | alt a b iha ihb =>
    rcases mem_runs_alt.1 hq with hq | hq
    · exact iha hp hq
    · exact ihb hp hq
  | star greedy a ih =>
    exact forall_mem_loopFrom (fun p hp q hq ↦ ih hp hq) greedy p.rest.length [] hp q hq

end Node

/-- What a search finds is in its text. -/
theorem within_of_find? {pattern : Pattern} (h : pattern.find? text = some q) : q.Within text := by
  obtain ⟨u, v, rfl, hfirst⟩ := Node.exists_of_search h
  obtain ⟨m, hm, hmq⟩ := Node.exists_mem_runs_of_first hfirst
  obtain rfl : m = q := Option.some.inj hmq
  exact Node.within_of_mem_runs ⟨List.suffix_append u v, by simp⟩ hm

end Unscramble.Pattern

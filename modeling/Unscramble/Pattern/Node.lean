import Unscramble.Pattern.CharClass

/-!
# Matching

The meaning of a pattern. `Node.runs` gives every place that a pattern can reach from a place, in
order of preference: what a greedy or an earlier alternative reaches comes first. The match at a
place is the first of them, and the match in a text is that of the leftmost place that has one.

A loop whose body can match nothing could go round without progress. `checkpoint` prevents it: a run
passes each checkpoint at most once between two characters that it consumes.

## Main definitions

* `Place`: where a run stands, and what it has captured so far.
* `Node.runs`: the places that a pattern reaches from a place, best first.
* `Node.first`: the first answer to a place that a pattern reaches, found without the others.
* `Node.search`: the leftmost match, and there the best.

## Main statements

* `runs_cat`, `runs_alt`: a sequence chains its parts, alternatives are listed in order.
* `first_eq`: the first answer is the first among all places that a pattern reaches.
* `search_cons`: the leftmost match is the best run from here or else lies further on.
-/

namespace Unscramble.Pattern

/-- The text captured by a group: the first `length` characters of `tail`. -/
structure Capture where
  group : Nat
  tail : List Char
  length : Nat

/-- The captured characters. -/
def Capture.text (c : Capture) : List Char :=
  c.tail.take c.length

/-- Where a run stands: the character before, the text to come, and how many characters of the
whole text are behind. `captures` has the latest capture first, and `passed` holds the checkpoints
passed since the last character was consumed. -/
structure Place where
  last : Option Char
  rest : List Char
  offset : Nat
  captures : List Capture
  passed : List Nat

/-- Conditions on a place that consume nothing. -/
inductive Look
  /-- The start of the text. -/
  | start
  /-- The end of the text. -/
  | stop
  /-- The start of a line that a line feed ends. -/
  | lineStart
  /-- The end of a line that a line feed ends. -/
  | lineStop
  /-- The start of a line, where `\r\n`, `\r` and `\n` end lines. -/
  | anyLineStart
  /-- The end of a line, where `\r\n`, `\r` and `\n` end lines. -/
  | anyLineStop
  /-- A word on exactly one side. -/
  | edge (word : Char → Bool)
  /-- A word on both sides or on neither. -/
  | noEdge (word : Char → Bool)
  /-- A word begins: none before, one after. -/
  | wordStart (word : Char → Bool)
  /-- A word ends: one before, none after. -/
  | wordStop (word : Char → Bool)
  /-- No word before. -/
  | wordStartHalf (word : Char → Bool)
  /-- No word after. -/
  | wordStopHalf (word : Char → Bool)

/-- Whether the condition holds between the character `last` and the text `rest`. -/
def Look.holds (last : Option Char) (rest : List Char) : Look → Bool
  | start => last.isNone
  | stop => rest.isEmpty
  | lineStart => last.all (· == '\n')
  | lineStop => rest.head?.all (· == '\n')
  | anyLineStart =>
    last.all fun c ↦ c == '\n' || (c == '\r' && rest.head? != some '\n')
  | anyLineStop =>
    rest.head?.all fun c ↦ c == '\r' || (c == '\n' && last != some '\r')
  | edge word => last.any word != rest.head?.any word
  | noEdge word => last.any word == rest.head?.any word
  | wordStart word => !last.any word && rest.head?.any word
  | wordStop word => last.any word && !rest.head?.any word
  | wordStartHalf word => !last.any word
  | wordStopHalf word => !rest.head?.any word

namespace Place

/-- Consume the character `c`, which `rest` follows. -/
def step (p : Place) (c : Char) (rest : List Char) : Place :=
  { p with last := some c, rest := rest, offset := p.offset + 1, passed := [] }

/-- Record that a group ran from `p` to here. -/
def close (q : Place) (group : Nat) (p : Place) : Place :=
  { q with captures := ⟨group, p.rest, q.offset - p.offset⟩ :: q.captures }

/-- Pass a checkpoint. -/
def pass (p : Place) (checkpoint : Nat) : Place :=
  { p with passed := checkpoint :: p.passed }

end Place

/-- A pattern. -/
inductive Node
  /-- Matches nothing, successfully. -/
  | empty
  /-- One character of a class. -/
  | one (c : CharClass)
  /-- Any number of characters of a class. -/
  | many (greedy : Bool) (c : CharClass)
  /-- A condition on the place. -/
  | look (l : Look)
  /-- A mark that a run passes at most once between two characters. -/
  | checkpoint (id : Nat)
  /-- A part whose text is captured. -/
  | group (index : Nat) (body : Node)
  /-- One part after another. -/
  | cat (a b : Node)
  /-- The first part or, less preferred, the second. -/
  | alt (a b : Node)
  /-- Any number of repetitions. -/
  | star (greedy : Bool) (body : Node)

/-- The places from `p` on that are reached by consuming characters of a class one after another,
nearest first. The text to come is given once more to recur on. -/
def spanFrom (c : CharClass) : List Char → Place → List Place
  | [], p => [p]
  | x :: rest, p => if c.has x then p :: spanFrom c rest (p.step x rest) else [p]

/-- The places that repetitions of `body` reach from `p`, without those in `seen` and what follows
from them, together with all offsets seen by then. Only repetitions that consume something count. At
most `fuel` characters are to come. -/
def loopFrom (greedy : Bool) (body : Place → List Place) :
    (fuel : Nat) → (seen : List Nat) → Place → List Nat × List Place
  | 0, seen, p => if p.offset ∈ seen then (seen, []) else (p.offset :: seen, [p])
  | fuel + 1, seen, p =>
    if p.offset ∈ seen then (seen, [])
    else
      let further := (body p).filter fun q ↦ p.offset < q.offset
      let (seen, reached) := further.foldl
        (fun (seen, reached) q ↦
          let (seen, more) := loopFrom greedy body fuel seen q
          (seen, reached ++ more))
        (p.offset :: seen, [])
      (seen, if greedy then reached ++ [p] else p :: reached)

namespace Node

/-- The places that the pattern reaches from a place, best first. -/
def runs : Node → Place → List Place
  | empty, p => [p]
  | one c, p =>
    match p.rest with
    | [] => []
    | x :: rest => if c.has x then [p.step x rest] else []
  | many greedy c, p =>
    if greedy then (spanFrom c p.rest p).reverse else spanFrom c p.rest p
  | look l, p => if l.holds p.last p.rest then [p] else []
  | checkpoint id, p => if id ∈ p.passed then [] else [p.pass id]
  | group index body, p => (body.runs p).map fun q ↦ q.close index p
  | cat a b, p => (a.runs p).flatMap b.runs
  | alt a b, p => a.runs p ++ b.runs p
  | star greedy body, p => (loopFrom greedy body.runs p.rest.length [] p).2

/-- The first answer of `k` to a place among those that `spanFrom` gives, from the nearest on. -/
def nearest {β : Type} (c : CharClass) (k : Place → Option β) : List Char → Place → Option β
  | [], p => k p
  | x :: rest, p =>
    if c.has x then
      match k p with
      | some b => some b
      | none => nearest c k rest (p.step x rest)
    else k p

/-- The first answer of `k` to a place among those that `spanFrom` gives, from the farthest on. -/
def farthest {β : Type} (c : CharClass) (k : Place → Option β) : List Char → Place → Option β
  | [], p => k p
  | x :: rest, p =>
    if c.has x then
      match farthest c k rest (p.step x rest) with
      | some b => some b
      | none => k p
    else k p

/-- The first answer of `k` to a place that the pattern reaches, best first. Places after it are not
looked for. -/
def first {β : Type} : Node → Place → (Place → Option β) → Option β
  | empty, p, k => k p
  | one c, p, k =>
    match p.rest with
    | [] => none
    | x :: rest => if c.has x then k (p.step x rest) else none
  | many greedy c, p, k => if greedy then farthest c k p.rest p else nearest c k p.rest p
  | look l, p, k => if l.holds p.last p.rest then k p else none
  | checkpoint id, p, k => if id ∈ p.passed then none else k (p.pass id)
  | group index body, p, k => body.first p fun q ↦ k (q.close index p)
  | cat a b, p, k => a.first p fun q ↦ b.first q k
  | alt a b, p, k =>
    match a.first p k with
    | some r => some r
    | none => b.first p k
  | star greedy body, p, k => (loopFrom greedy body.runs p.rest.length [] p).2.findSome? k

/-- The best run from the leftmost place that has one, where `last` is the character before the
text. -/
def search (node : Node) (last : Option Char) (offset : Nat) : List Char → Option Place
  | [] => node.first ⟨last, [], offset, [], []⟩ some
  | c :: rest =>
    match node.first ⟨last, c :: rest, offset, [], []⟩ some with
    | some q => some q
    | none => node.search (some c) (offset + 1) rest

@[simp] theorem runs_empty (p : Place) : empty.runs p = [p] := rfl

theorem runs_cat (a b : Node) (p : Place) : (cat a b).runs p = (a.runs p).flatMap b.runs := rfl

theorem runs_alt (a b : Node) (p : Place) : (alt a b).runs p = a.runs p ++ b.runs p := rfl

theorem runs_group (i : Nat) (a : Node) (p : Place) :
    (group i a).runs p = (a.runs p).map fun q ↦ q.close i p := rfl

/-! ### Looking for the best place only -/

theorem nearest_eq {β : Type} (c : CharClass) (k : Place → Option β) (s : List Char) (p : Place) :
    nearest c k s p = (spanFrom c s p).findSome? k := by
  induction s generalizing p with
  | nil => cases h : k p <;> simp [nearest, spanFrom, h]
  | cons x rest ih =>
    rw [nearest, spanFrom]
    split <;> cases h : k p <;> simp [h, ih]

theorem farthest_eq {β : Type} (c : CharClass) (k : Place → Option β) (s : List Char)
    (p : Place) : farthest c k s p = (spanFrom c s p).reverse.findSome? k := by
  induction s generalizing p with
  | nil => cases h : k p <;> simp [farthest, spanFrom, h]
  | cons x rest ih =>
    rw [farthest, spanFrom]
    split
    · rw [List.reverse_cons, List.findSome?_append, ih]
      cases (spanFrom c rest (p.step x rest)).reverse.findSome? k <;> cases h : k p <;> simp [h]
    · cases h : k p <;> simp [h]

theorem findSome?_flatMap {α β γ : Type} (f : α → List β) (k : β → Option γ) (l : List α) :
    (l.flatMap f).findSome? k = l.findSome? fun a ↦ (f a).findSome? k := by
  induction l with
  | nil => rfl
  | cons a l ih =>
    rw [List.flatMap_cons, List.findSome?_append, ih, List.findSome?_cons]
    cases (f a).findSome? k <;> rfl

/-- **The first answer** is the first among all places that the pattern reaches. -/
theorem first_eq {β : Type} (node : Node) (p : Place) (k : Place → Option β) :
    node.first p k = (node.runs p).findSome? k := by
  induction node generalizing p k with
  | empty => cases h : k p <;> simp [first, runs, h]
  | one c =>
    rw [first, runs]
    cases p.rest with
    | nil => rfl
    | cons x rest =>
      by_cases hx : c.has x = true
      · cases h : k (p.step x rest) <;> simp [hx, h]
      · simp [hx]
  | many greedy c =>
    rw [first, runs]
    split
    · exact farthest_eq c k p.rest p
    · exact nearest_eq c k p.rest p
  | look l =>
    rw [first, runs]
    split
    · cases h : k p <;> simp [h]
    · rfl
  | checkpoint id =>
    rw [first, runs]
    split
    · rfl
    · cases h : k (p.pass id) <;> simp [h]
  | group index body ih => simp [first, runs, ih, List.findSome?_map, Function.comp_def]
  | cat a b iha ihb => simp [first, runs, iha, ihb, findSome?_flatMap]
  | alt a b iha ihb =>
    rw [first, runs, iha, ihb, List.findSome?_append]
    cases (a.runs p).findSome? k <;> rfl
  | star greedy body _ => rfl

theorem findSome?_some {α : Type} (l : List α) : l.findSome? some = l.head? := by
  cases l <;> rfl

theorem search_nil (node : Node) (last : Option Char) (offset : Nat) :
    node.search last offset [] = (node.runs ⟨last, [], offset, [], []⟩).head? := by
  rw [search, first_eq, findSome?_some]

/-- **The leftmost match** is the best run from here, if there is one, and else the leftmost match
one character on. -/
theorem search_cons (node : Node) (last : Option Char) (offset : Nat) (c : Char)
    (rest : List Char) :
    node.search last offset (c :: rest) =
      (node.runs ⟨last, c :: rest, offset, [], []⟩).head?.or
        (node.search (some c) (offset + 1) rest) := by
  rw [search, first_eq, findSome?_some]
  cases (node.runs ⟨last, c :: rest, offset, [], []⟩).head? <;> rfl

end Node

end Unscramble.Pattern

import Mathlib.Data.List.Infix
import Unscramble.Proofs.Pattern.Occurrence
import Unscramble.Proofs.Recognizers

/-!
# Identifiers stand for themselves

An identifier that is put into a template is looked for as it is, whatever characters it has. To see
what the identifier alone contributes, the template around it is kept as plain as can be: a literal
text, a group that captures the identifier, and another literal text. Such a recognizer is a search
for the three texts in a row, and captures the identifier exactly if they stand somewhere in the
text.

Reading the pattern goes through the two literal texts and the escaped identifier character by
character and opens and closes one group on the way, so no character of the identifier acts as
anything but itself. Its length is the only thing about it that can matter: a pattern that takes too
much room is refused.

## Main definitions

* `LiteralTemplate`: a template with a literal text before the identifier and one behind it.
* `LiteralTemplate.accepts`: the pattern with an identifier is not refused.

## Main statements

* `LiteralTemplate.read_text`: the pattern is known, unless it is too large.
* `LiteralTemplate.mem_runs_node`: it goes along the three texts, and captures that in the middle.
* `LiteralTemplate.recognize_identifier`: the recognizer is a search for the three texts in a row.
-/

namespace Unscramble

open Unscramble.Text Unscramble.Pattern

/-! ### Opening and closing a group -/

namespace Pattern

/-- A parenthesis without a question mark behind it opens a group that captures. -/
theorem readGroupStart_of_head? {s : List Char} (h : '?' ∉ s.head?) :
    readGroupStart false s = .ok (.capture none, s) := by
  have hne (r : List Char) : s ≠ '?' :: r := by
    rintro rfl
    exact h rfl
  unfold readGroupStart
  rw [gap, if_neg Bool.false_ne_true]
  split
  all_goals first | rfl | exact absurd rfl (hne _)

namespace ReadState

theorem step_open {st : ReadState} (hst : st.verbose = false) {s : List Char}
    (h : '?' ∉ s.head?) :
    st.step '(' s =
      .ok (({ st with groups := st.groups + 1 } : ReadState).openGroup (.capture (st.groups + 1))
        false, s) := by
  show (readGroupStart st.verbose s >>= _) = _
  rw [hst, readGroupStart_of_head? h]
  show (Except.ok (ReadState.openGroup _ _ st.verbose, s) : Except PatternError _) = _
  rw [hst]

/-- The reader behind a group that captures a word. -/
def pushGroup (st : ReadState) (w : List Char) : ReadState :=
  { st with
    parts := .group (.capture (st.groups + 1)) (Expr.cats (w.map .char)) :: st.parts
    groups := st.groups + 1 }

/-- What is read in a group is its content. -/
theorem closeGroup_pushWord_openGroup {st : ReadState} (hst : st.verbose = false) (w : List Char) :
    ((({ st with groups := st.groups + 1 } : ReadState).openGroup (.capture (st.groups + 1))
      false).pushWord w).closeGroup = .ok (st.pushGroup w) := by
  obtain ⟨verbose, parts, branches, open_, groups, names⟩ := st
  obtain rfl : verbose = false := hst
  have hparts : ((w.map Expr.char).reverse ++ []).reverse = w.map Expr.char := by
    rw [List.append_nil, List.reverse_reverse]
  show Except.ok (ReadState.mk false
    (.group (.capture (groups + 1)) (Expr.cats ((w.map Expr.char).reverse ++ []).reverse) :: parts)
    branches open_ (groups + 1) names) = _
  rw [hparts]
  rfl

/-- **A group around an escaped word is read as a group around its characters**, in two steps more
than the word has characters. -/
theorem readAll_group (w rest : List Char) {st : ReadState} (hst : st.verbose = false) (n : ℕ) :
    readAll (n + 1 + w.length + 1) st ('(' :: (escape w ++ ')' :: rest)) =
      readAll n (st.pushGroup w) rest := by
  have hparen : '?' ∉ (')' :: rest).head? := nofun
  have hhead : '?' ∉ (escape w ++ ')' :: rest).head? := head?_escape_append hparen w
  rw [readAll_succ_cons hst, step_open hst hhead]
  show readAll (n + 1 + w.length) _ (escape w ++ ')' :: rest) = _
  rw [readAll_escape w _ rfl, readAll_succ_cons rfl]
  show (closeGroup _ >>= _) >>= _ = _
  rw [closeGroup_pushWord_openGroup hst]
  rfl

end ReadState

namespace Expr

/-- Parts that mean nodes mean them one after another. -/
theorem becomes_cats {es : List Expr} {as : List Node} (h : List.Forall₂ Becomes es as)
    (hes : es ≠ []) : (cats es).Becomes (Node.cats as) := by
  induction h with
  | nil => exact absurd rfl hes
  | @cons e a es as he h ih =>
    cases h with
    | nil => exact he
    | cons he' h' => exact he.cons (ih (List.cons_ne_nil _ _)) (List.cons_ne_nil _ _)

/-- A word means the characters of the word, also if it has none. -/
theorem run_toNode_word (w : List Char) :
    ((cats (w.map char)).toNode false false).run ⟨{}, 0⟩ =
      .ok (Node.cats (Node.word w), ⟨{}, 0⟩) := by
  cases w with
  | nil => rfl
  | cons c w => exact (becomes_cats (forall₂_becomes_word (c :: w)) (List.cons_ne_nil _ _)).1

/-- A group around a word captures the word. -/
theorem becomes_group_word (i : ℕ) (w : List Char) :
    (group (.capture i) (cats (w.map char))).Becomes (.group i (Node.cats (Node.word w))) := by
  refine ⟨?_, nofun⟩
  have hrun : (cats (w.map char)).toNode false false ⟨{}, 0⟩ =
      .ok (Node.cats (Node.word w), ⟨{}, 0⟩) := run_toNode_word w
  rw [toNode]
  show (((cats (w.map char)).toNode false false ⟨{}, 0⟩).bind _).bind _ = _
  rw [hrun]
  rfl

end Expr

end Pattern

/-! ### The template -/

/-- A template that is literal but for a group with the gap for an identifier: what stands before
the group, and what stands behind it. -/
structure LiteralTemplate where
  name : String
  before : List Char
  behind : List Char
  plain_before : ∀ c ∈ before, isOperator c = false
  plain_behind : ∀ c ∈ behind, isOperator c = false

namespace LiteralTemplate

variable (t : LiteralTemplate) (w : List Char)

/-- The template as a recognizer. -/
def recognizer : Recognizer :=
  ⟨t.name, String.ofList (t.before ++ '(' :: (placeholder ++ ')' :: t.behind))⟩

/-- The text of the pattern with a word in the gap. -/
def text : List Char :=
  t.before ++ '(' :: (escape w ++ ')' :: t.behind)

/-- The parts of the pattern with a word in the gap. -/
def parts : List Expr :=
  t.before.map .char ++ .group (.capture 1) (Expr.cats (w.map .char)) :: t.behind.map .char

/-- The meaning of the pattern with a word in the gap. -/
def node : Node :=
  Node.cats (Node.word t.before ++ .group 1 (Node.cats (Node.word w)) :: Node.word t.behind)

/-- The room that the pattern with a word in the gap takes: that of its characters and of the group,
which takes some for its content even if it has none. -/
def size : ℕ :=
  32 * (Utf8.size t.before + Utf8.size w + Utf8.size t.behind) + if w = [] then 96 else 64

theorem patternText_recognizer (id : List Char) :
    t.recognizer.patternText (some id) = t.text (identifierOf id) := by
  have hbefore : '\x7b' ∉ t.before ++ ['('] := by
    rw [List.mem_append, not_or]
    exact ⟨fun h ↦ Bool.false_ne_true (t.plain_before _ h).symm, by decide⟩
  have hbehind : '\x7b' ∉ ')' :: t.behind := by
    rw [List.mem_cons, not_or]
    exact ⟨by decide, fun h ↦ Bool.false_ne_true (t.plain_behind _ h).symm⟩
  have hreplace : replaceAll placeholder (escape (identifierOf id))
      (t.before ++ ['('] ++ (placeholder ++ ')' :: t.behind)) =
        t.before ++ ['('] ++ (escape (identifierOf id) ++ ')' :: t.behind) :=
    replaceAll_append_append hbefore hbehind _
  rw [List.append_assoc, List.append_assoc] at hreplace
  rw [Recognizer.patternText, recognizer, String.toList_ofList]
  exact hreplace

/-! ### Reading it -/

/-- The reader goes through the text before the group, the word and the text behind the group. -/
theorem readAll_text :
    ReadState.readAll ((t.text w).length + 1) ⟨false, [], [], [], 0, []⟩ (t.text w) =
      .ok ⟨false, (t.parts w).reverse, [], [], 1, []⟩ := by
  have hw := length_le_length_escape w
  -- one step per character of the texts and two for the group
  have hlen : (t.text w).length + 1 =
      (escape w).length - w.length + 1 + t.behind.length + 1 + w.length + 1 + t.before.length := by
    simp only [text, List.length_append, List.length_cons]
    omega
  have hbehind (n : ℕ) (st : ReadState) (hst : st.verbose = false) :
      ReadState.readAll (n + 1 + t.behind.length) st t.behind = .ok (st.pushWord t.behind) := by
    have h := ReadState.readAll_plain t.plain_behind [] hst (n + 1)
    rwa [List.append_nil, ReadState.readAll_nil] at h
  rw [hlen, text, ReadState.readAll_plain t.plain_before _ rfl, ReadState.readAll_group w _ rfl,
    hbehind _ _ rfl]
  simp [ReadState.pushWord, ReadState.pushGroup, parts]

/-- There is a sequence in a group in a sequence. -/
theorem depth_parts_le : (Expr.cats (t.parts w)).depth false false ≤ depthLimit := by
  have hchar {v : List Char} {e : Expr} (he : e ∈ v.map .char) (inCat inAlt : Bool) (d : ℕ) :
      e.depth inCat inAlt ≤ d :=
    (Expr.depth_eq_zero_of_mem_word he inCat inAlt).trans_le (Nat.zero_le d)
  have hword : (Expr.cats (w.map .char)).depth false false ≤ 1 :=
    Expr.depth_cats_le (fun e he inCat inAlt ↦ hchar he inCat inAlt 0) false false
  have hparts : ∀ e ∈ t.parts w, ∀ inCat inAlt, e.depth inCat inAlt ≤ 2 := by
    intro e he inCat inAlt
    rw [parts, List.mem_append, List.mem_cons] at he
    rcases he with he | rfl | he
    · exact hchar he inCat inAlt 2
    · exact Nat.succ_le_succ hword
    · exact hchar he inCat inAlt 2
  exact (Expr.depth_cats_le hparts false false).trans (by decide)

theorem parts_ne_nil : t.parts w ≠ [] :=
  List.append_ne_nil_of_right_ne_nil _ (List.cons_ne_nil _ _)

theorem size_parts : (Expr.cats (t.parts w)).size = t.size w := by
  have hword : (Expr.cats (w.map .char)).size =
      32 * Utf8.size w + if w = [] then 32 else 0 := by
    by_cases h : w = []
    · subst h
      rfl
    · rw [if_neg h, Expr.size_cats (List.map_eq_nil_iff.not.2 h), Expr.sum_size_word]
      rfl
  rw [Expr.size_cats (t.parts_ne_nil w), parts, List.map_append, List.map_cons, List.sum_append,
    List.sum_cons, Expr.sum_size_word, Expr.sum_size_word, Expr.size, hword, size]
  split <;> omega

theorem becomes_parts : (Expr.cats (t.parts w)).Becomes (t.node w) :=
  Expr.becomes_cats
    (List.rel_append (Expr.forall₂_becomes_word t.before)
      (.cons (Expr.becomes_group_word 1 w) (Expr.forall₂_becomes_word t.behind)))
    (t.parts_ne_nil w)

/-- **The pattern** is what the template and the word make it, unless it is too large. -/
theorem read_text : Pattern.read (t.text w) =
    if sizeLimit < t.size w then .error .tooLarge else .ok ⟨t.node w, []⟩ := by
  have hwritten := written_read_of_readAll (t.readAll_text w) (t.depth_parts_le w)
  rw [read_of_written hwritten (t.becomes_parts w), t.size_parts w]

/-! ### Searching with it -/

/-- The place behind the three texts, of which that in the middle is captured. -/
def placeBehind (p : Place) (rest : List Char) : Place :=
  let m := p.after t.before (w ++ (t.behind ++ rest))
  ((m.after w (t.behind ++ rest)).close 1 m).after t.behind rest

variable {p q : Place} {w}

/-- **A run goes along the three texts.** -/
theorem mem_runs_node : q ∈ (t.node w).runs p ↔
    ∃ rest, p.rest = t.before ++ (w ++ (t.behind ++ rest)) ∧ q = t.placeBehind w p rest := by
  rw [node, Node.mem_runs_word]
  constructor
  · rintro ⟨rest, hp, hq⟩
    obtain ⟨m, hm, hq⟩ := Node.mem_runs_cats_cons.1 hq
    obtain ⟨m', hm', rfl⟩ := Node.mem_runs_group.1 hm
    obtain ⟨rest', hrest, rfl⟩ := Node.mem_runs_cats_word.1 hm'
    obtain ⟨rest'', hrest', rfl⟩ := Node.mem_runs_cats_word.1 hq
    obtain rfl : rest' = t.behind ++ rest'' := hrest'
    obtain rfl : rest = w ++ (t.behind ++ rest'') := hrest
    exact ⟨rest'', hp, rfl⟩
  · rintro ⟨rest, hp, rfl⟩
    have hword : (p.after t.before (w ++ (t.behind ++ rest))).after w (t.behind ++ rest) ∈
        (Node.cats (Node.word w)).runs (p.after t.before (w ++ (t.behind ++ rest))) :=
      Node.mem_runs_cats_word.2 ⟨_, rfl, rfl⟩
    exact ⟨_, hp, Node.mem_runs_cats_cons.2
      ⟨_, Node.mem_runs_group.2 ⟨_, hword, rfl⟩, Node.mem_runs_cats_word.2 ⟨rest, rfl, rfl⟩⟩⟩

/-- A run captures the text in the middle. -/
theorem captured?_of_mem_runs_node (h : q ∈ (t.node w).runs p) : q.captured? 1 = some w := by
  obtain ⟨rest, -, rfl⟩ := t.mem_runs_node.1 h
  rw [placeBehind, Place.captured?_after]
  exact Place.captured?_close_self rfl 1 _ rfl

/-- The pattern occurs exactly where the three texts stand in a row. -/
theorem occursIn_node_iff {names : List (List Char × ℕ)} {s : List Char} :
    Pattern.occursIn ⟨t.node w, names⟩ s = true ↔ t.before ++ (w ++ t.behind) <:+: s := by
  rw [occursIn_iff]
  constructor
  · rintro ⟨u, _, rfl, q, hq⟩
    obtain ⟨rest, rfl, -⟩ := t.mem_runs_node.1 hq
    exact ⟨u, rest, by simp⟩
  · rintro ⟨u, v, rfl⟩
    exact ⟨u, t.before ++ (w ++ (t.behind ++ v)), by simp, _, t.mem_runs_node.2 ⟨v, rfl, rfl⟩⟩

/-- **A search for the pattern** finds the word where it stands between the two other texts. -/
theorem captured?_find? (s : List Char) :
    ((Pattern.find? ⟨t.node w, []⟩ s).bind (·.captured? 1)) =
      if t.before ++ (w ++ t.behind) <:+: s then some w else none := by
  have hoccurs : (Pattern.find? ⟨t.node w, []⟩ s).isSome = true ↔ _ := t.occursIn_node_iff
  rcases hfind : Pattern.find? ⟨t.node w, []⟩ s with - | q
  · rw [hfind] at hoccurs
    rw [if_neg fun h ↦ Bool.false_ne_true (hoccurs.2 h)]
    rfl
  · rw [hfind] at hoccurs
    obtain ⟨u, v, -, hfirst⟩ := Node.exists_of_search hfind
    obtain ⟨q', hq', hsome⟩ := Node.exists_mem_runs_of_first hfirst
    obtain rfl : q' = q := Option.some.inj hsome
    rw [if_pos (hoccurs.1 rfl)]
    exact t.captured?_of_mem_runs_node hq'

/-! ### The recognizer -/

/-- The pattern with the identifier is not refused. -/
def accepts (id : List Char) : Bool :=
  (Pattern.read (t.recognizer.patternText (some id))).isOk

theorem read_patternText (id : List Char) :
    Pattern.read (t.recognizer.patternText (some id)) =
      if sizeLimit < t.size (identifierOf id) then .error .tooLarge
      else .ok ⟨t.node (identifierOf id), []⟩ := by
  rw [patternText_recognizer, read_text]

theorem accepts_iff {id : List Char} :
    t.accepts id = true ↔ t.size (identifierOf id) ≤ sizeLimit := by
  rw [accepts, read_patternText]
  split_ifs with h
  · exact ⟨nofun, fun hle ↦ absurd h hle.not_gt⟩
  · exact ⟨fun _ ↦ Nat.not_lt.1 h, fun _ ↦ rfl⟩

theorem recognize_eq (id s : List Char) :
    t.recognizer.recognize s (some id) =
      if sizeLimit < t.size (identifierOf id) then .error .tooLarge
      else .ok (if t.before ++ (identifierOf id ++ t.behind) <:+: s then some (identifierOf id)
        else none) := by
  have hread := t.read_patternText id
  by_cases h : sizeLimit < t.size (identifierOf id)
  · rw [if_pos h] at hread ⊢
    exact Recognizer.recognize_of_read_eq_error hread s
  · rw [if_neg h] at hread ⊢
    rw [Recognizer.recognize_of_read hread]
    exact congrArg Except.ok (t.captured?_find? s)

/-- An identifier of 327680 bytes is too long for any template. -/
theorem recognize_of_le_size {id : List Char} (h : 327680 ≤ Utf8.size (identifierOf id))
    (s : List Char) : t.recognizer.recognize s (some id) = .error .tooLarge := by
  have hlimit : sizeLimit = 10485760 := by decide
  have hsize : sizeLimit < t.size (identifierOf id) := by
    rw [hlimit, size]
    split <;> omega
  rw [recognize_eq, if_pos hsize]

/-- **An identifier stands for itself in a pattern.** The recognizer is a search for the text before
the gap, the decoded identifier and the text behind the gap in a row. A pattern is refused only for
its size, and never if the three texts have no more than 320000 bytes. -/
theorem recognize_identifier (t : LiteralTemplate) (id s : List Char) :
    (t.recognizer.recognize s (some id) =
      if t.accepts id then
        .ok (if t.before ++ (identifierOf id ++ t.behind) <:+: s then some (identifierOf id)
          else none)
      else .error .tooLarge) ∧
    (Utf8.size t.before + Utf8.size (identifierOf id) + Utf8.size t.behind ≤ 320000 →
      t.accepts id = true) ∧
    ∀ id', identifierOf id' = identifierOf id →
      t.recognizer.recognize s (some id') = t.recognizer.recognize s (some id) := by
  refine ⟨?_, fun hsize ↦ t.accepts_iff.2 ?_, fun id' hid ↦ ?_⟩
  · rw [recognize_eq]
    by_cases h : sizeLimit < t.size (identifierOf id)
    · rw [if_pos h, if_neg fun haccepts ↦ (t.accepts_iff.1 haccepts).not_gt h]
    · rw [if_neg h, if_pos (t.accepts_iff.2 (Nat.not_lt.1 h))]
  · have hlimit : sizeLimit = 10485760 := by decide
    rw [hlimit, size]
    split <;> omega
  · rw [recognize_eq, recognize_eq, hid]

/-- A template with a letter on either side of the gap. -/
def lettered : LiteralTemplate where
  name := "lettered"
  before := ['x']
  behind := ['y']
  plain_before := List.forall_mem_singleton.2 rfl
  plain_behind := List.forall_mem_singleton.2 rfl

theorem lettered_recognize_encoded :
    lettered.accepts "a%2E".toList = true ∧
      lettered.recognizer.recognize "xazy xa.y".toList (some "a%2E".toList) =
        .ok (some "a.".toList) ∧
      lettered.recognizer.recognize "xazy".toList (some "a.".toList) = .ok none := by
  have hencoded : identifierOf "a%2E".toList = "a.".toList := by decide
  have hplain : identifierOf "a.".toList = "a.".toList := by decide
  have hsize : Utf8.size lettered.before + Utf8.size "a.".toList + Utf8.size lettered.behind = 4 :=
    by decide
  have h := recognize_identifier lettered "a%2E".toList "xazy xa.y".toList
  have h' := recognize_identifier lettered "a.".toList "xazy".toList
  rw [hencoded, hsize] at h
  rw [hplain, hsize] at h'
  have haccepts : lettered.accepts "a%2E".toList = true := h.2.1 (by decide)
  have haccepts' : lettered.accepts "a.".toList = true := h'.2.1 (by decide)
  refine ⟨haccepts, ?_, ?_⟩
  · rw [h.1, if_pos haccepts]
    exact congrArg Except.ok (if_pos ⟨"xazy ".toList, [], rfl⟩)
  · rw [h'.1, if_pos haccepts']
    exact congrArg Except.ok (if_neg (by decide))

/-- An identifier can be too long. -/
theorem lettered_recognize_overlong :
    lettered.recognizer.recognize ['b'] (some (List.replicate 450000 'a')) = .error .tooLarge := by
  have hid : identifierOf (List.replicate 450000 'a') = List.replicate 450000 'a' :=
    identifierOf_of_notMem fun h ↦ absurd (List.eq_of_mem_replicate h) (by decide)
  have hascii : ∀ c ∈ List.replicate 450000 'a', c.toNat < 0x80 := by
    intro c hc
    rw [List.eq_of_mem_replicate hc]
    decide
  have hsize : Utf8.size (List.replicate 450000 'a') = 450000 :=
    (Utf8.size_of_ascii hascii).trans List.length_replicate
  apply recognize_of_le_size
  rw [hid, hsize]
  decide

end LiteralTemplate

end Unscramble

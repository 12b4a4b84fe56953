import Mathlib.Data.List.Forall2
import Unscramble.Proofs.Pattern.Runs
import Unscramble.Proofs.Text.Spelled
import Unscramble.Proofs.Text.Utf8

/-!
# Patterns with a literal word

A template gets an identifier put into its text, with a backslash before every character that has a
meaning in a pattern. Whatever the identifier is, reading it yields one part per character and
leaves the reader as it found it, so the parts before and behind it are read as if nothing stood
between them. The pattern is therefore known as soon as the two fixed pieces of the template are
known, and these are read by evaluation.

The only thing about the pattern that depends on the word is its size, which grows by the same
amount with each byte of the word. A word can be so long that the pattern is refused for it.

## Main definitions

* `isOperator`: a character that does not stand for itself.
* `ReadState.pushWord`: the reader behind a literal word.
* `Expr.Becomes`: a part as written and the node that it means.
* `Gapped`: a template with a gap for a word.

## Main statements

* `ReadState.readAll_plain`, `ReadState.readAll_escape`: a text without operators and an escaped
  word are read as their characters.
* `written_read_of_readAll`, `read_of_written`: a sequence of parts as a whole pattern.
* `Gapped.read_text`: a pattern with a literal word in it.
-/

namespace Unscramble.Pattern

open Unscramble.Text

/-! ### Characters that stand for themselves -/

/-- A character that does not stand for itself where a part can begin. -/
def isOperator (c : Char) : Bool :=
  c ∈ ['(', ')', '|', '[', '?', '*', '+', '{', '\\', '.', '^', '$']

/-- All operators can be escaped. -/
theorem isOperator_eq_false {c : Char} (h : isMeta c = false) : isOperator c = false := by
  rw [isOperator, decide_eq_false_iff_not]
  intro hc
  have hmeta : isMeta c = true := forall_mem_of_all (p := fun d ↦ isMeta d = true) rfl c hc
  rw [hmeta] at h
  cases h

theorem length_le_length_escape (w : List Char) : w.length ≤ (escape w).length := by
  induction w with
  | nil => exact Nat.zero_le _
  | cons c w ih =>
    rw [escape, List.flatMap_cons, List.length_append]
    have hc : 1 ≤ (if isMeta c then ['\\', c] else [c]).length := by split <;> simp
    have hw : (escape w).length = (w.flatMap fun c ↦ if isMeta c then ['\\', c] else [c]).length :=
      rfl
    rw [List.length_cons]
    omega

/-- A word does not begin with a question mark when it is escaped. -/
theorem head?_escape_append {rest : List Char} (h : '?' ∉ rest.head?) (w : List Char) :
    '?' ∉ (escape w ++ rest).head? := by
  rcases w with - | ⟨c, w⟩
  · exact h
  · rw [escape, List.flatMap_cons]
    by_cases hc : isMeta c = true
    · rw [if_pos hc]
      intro h
      cases Option.some.inj h
    · rw [if_neg hc]
      intro h
      obtain rfl : c = '?' := Option.some.inj h
      exact hc rfl

/-! ### Reading the word -/

namespace ReadState

/-- The reader after a character that stands for itself has become a part. -/
def pushWord (st : ReadState) (w : List Char) : ReadState :=
  { st with parts := (w.map Expr.char).reverse ++ st.parts }

theorem push_char_pushWord (st : ReadState) (c : Char) (w : List Char) :
    (st.push (.char c)).pushWord w = st.pushWord (c :: w) := by
  simp [push, pushWord]

/-- A character that is no operator becomes a part. -/
theorem step_of_not_isOperator {c : Char} (h : isOperator c = false) (st : ReadState)
    (r : List Char) : st.step c r = .ok (st.push (.char c), r) := by
  have hne (d : Char) (hd : isOperator d = true) : c ≠ d := by
    rintro rfl
    rw [h] at hd
    cases hd
  unfold step
  split
  all_goals first | rfl | exact absurd rfl (hne _ (by decide))

/-- A character with a meaning becomes a part if a backslash stands before it. -/
theorem step_backslash {c : Char} (h : isMeta c = true) (st : ReadState) (r : List Char) :
    st.step '\\' (c :: r) = .ok (st.push (.char c), r) := by
  have hdigit : c.isDigit = false := by
    rw [isMeta, decide_eq_true_eq] at h
    exact forall_mem_of_all (p := fun c ↦ c.isDigit = false) rfl c h
  have hescapable : isEscapable c = true := by
    rw [isEscapable, h]
    rfl
  have hread : readEscape st.verbose (c :: r) = .ok (.char c, r) := by
    simp only [readEscape, hdigit, hescapable, Bool.false_eq_true, if_false, if_true]
  show (readEscape st.verbose (c :: r) >>= _) = _
  rw [hread]
  rfl

theorem readAll_nil (n : ℕ) (st : ReadState) : readAll n st [] = .ok st := by
  have hgap : gap st.verbose [] = [] := by
    rw [gap]
    split <;> rfl
  cases n with
  | zero => rfl
  | succ n => rw [readAll, hgap]

/-- Without verbose mode every character is read where it stands. -/
theorem readAll_succ_cons {st : ReadState} (hst : st.verbose = false) (n : ℕ) (c : Char)
    (r : List Char) :
    readAll (n + 1) st (c :: r) = (st.step c r).bind fun (st, rest) ↦ readAll n st rest := by
  rw [readAll, gap, hst, if_neg Bool.false_ne_true]
  rfl

/-- **A text without operators is read as its characters**, in one step each. -/
theorem readAll_plain {w : List Char} (hw : ∀ c ∈ w, isOperator c = false) (rest : List Char)
    {st : ReadState} (hst : st.verbose = false) (n : ℕ) :
    readAll (n + w.length) st (w ++ rest) = readAll n (st.pushWord w) rest := by
  induction w generalizing st with
  | nil => rfl
  | cons c w ih =>
    obtain ⟨hc, hw⟩ := List.forall_mem_cons.1 hw
    rw [List.cons_append, List.length_cons, ← Nat.add_assoc, readAll_succ_cons hst,
      step_of_not_isOperator hc, ← push_char_pushWord]
    exact ih hw hst

/-- **An escaped word is read as its characters**, in one step each. -/
theorem readAll_escape (w rest : List Char) {st : ReadState} (hst : st.verbose = false) (n : ℕ) :
    readAll (n + w.length) st (escape w ++ rest) = readAll n (st.pushWord w) rest := by
  induction w generalizing st with
  | nil => rfl
  | cons c w ih =>
    -- a character takes one step, with or without a backslash, and the state stays plain
    rw [List.length_cons, ← Nat.add_assoc, escape, List.flatMap_cons, ← push_char_pushWord]
    by_cases h : isMeta c = true
    · rw [if_pos h]
      show readAll (n + w.length + 1) st ('\\' :: c :: (escape w ++ rest)) = _
      rw [readAll_succ_cons hst, step_backslash h]
      exact ih hst
    · rw [if_neg h]
      show readAll (n + w.length + 1) st (c :: (escape w ++ rest)) = _
      rw [readAll_succ_cons hst, step_of_not_isOperator (isOperator_eq_false (by simpa using h))]
      exact ih hst

end ReadState

/-! ### Depth and size -/

namespace Expr

/-- A sequence takes the room of its parts. -/
theorem size_cats {es : List Expr} (hes : es ≠ []) : (cats es).size = (es.map size).sum := by
  induction es with
  | nil => exact absurd rfl hes
  | cons e es ih =>
    cases es with
    | nil => simp [cats]
    | cons e' es =>
      rw [List.map_cons, List.sum_cons, ← ih (List.cons_ne_nil e' es), cats, size]
      exact List.cons_ne_nil e' es

/-- The characters of a word take the same room for each byte. -/
theorem sum_size_word (w : List Char) : ((w.map char).map size).sum = 32 * Utf8.size w := by
  induction w with
  | nil => rfl
  | cons c w ih =>
    rw [List.map_cons, List.map_cons, List.sum_cons, ih, Utf8.size_cons, Nat.mul_add]
    rfl

/-- Every byte of a word adds the same to the size of the sequence it is put into. -/
theorem size_cats_word {fs : List Expr} (hfs : fs ≠ []) (es : List Expr) (w : List Char) :
    (cats (es ++ (w.map char ++ fs))).size = (cats (es ++ fs)).size + 32 * Utf8.size w := by
  rw [size_cats (List.append_ne_nil_of_right_ne_nil es (List.append_ne_nil_of_right_ne_nil _ hfs)),
    size_cats (List.append_ne_nil_of_right_ne_nil es hfs)]
  simp only [List.map_append, List.sum_append, sum_size_word]
  omega

/-- The characters of a word are not nested. -/
theorem depth_eq_zero_of_mem_word {w : List Char} {e : Expr} (he : e ∈ w.map char)
    (inCat inAlt : Bool) : e.depth inCat inAlt = 0 := by
  obtain ⟨c, -, rfl⟩ := List.mem_map.1 he
  rfl

/-- A sequence is at most one deeper than its parts, however many they are. -/
theorem depth_cats_le {es : List Expr} {d : ℕ}
    (h : ∀ e ∈ es, ∀ inCat inAlt, e.depth inCat inAlt ≤ d) (inCat inAlt : Bool) :
    (cats es).depth inCat inAlt ≤ if inCat then d else d + 1 := by
  induction es generalizing inCat inAlt with
  | nil => exact Nat.zero_le _
  | cons e es ih =>
    cases es with
    | nil =>
      have he := h e (List.mem_singleton_self e) inCat inAlt
      show e.depth inCat inAlt ≤ _
      split <;> omega
    | cons e' es =>
      have he := h e List.mem_cons_self true false
      have hes : (cats (e' :: es)).depth true false ≤ d :=
        ih (fun x hx ↦ h x (List.mem_cons_of_mem e hx)) true false
      rw [cats, depth]
      · cases inCat <;> simp only [if_true, Bool.false_eq_true, if_false] <;> omega
      · exact List.cons_ne_nil _ _

/-! ### Meaning -/

/-- The part means the node wherever no switch was turned, and turns none itself. -/
def Becomes (e : Expr) (node : Node) : Prop :=
  (e.toNode false false).run ⟨{}, 0⟩ = .ok (node, ⟨{}, 0⟩) ∧ node ≠ .empty

theorem becomes_char (c : Char) : (char c).Becomes (.char c) :=
  ⟨rfl, nofun⟩

theorem joined_of_ne_empty (a b : Node) : a ≠ .empty → b ≠ .empty →
    (match a, b with
      | .empty, b => b
      | a, .empty => a
      | a, b => .cat a b) = Node.cat a b := by
  intro ha hb
  split
  · exact absurd rfl ha
  · exact absurd rfl hb
  · rfl

/-- A part in front of a sequence. -/
theorem Becomes.cons {e : Expr} {es : List Expr} {a b : Node} (he : e.Becomes a)
    (hes : (cats es).Becomes b) (hne : es ≠ []) : (cats (e :: es)).Becomes (.cat a b) := by
  obtain ⟨e', es', rfl⟩ := List.exists_cons_of_ne_nil hne
  refine ⟨?_, nofun⟩
  have hrun : (cats (e' :: es')).toNode false false ⟨{}, 0⟩ = .ok (b, ⟨{}, 0⟩) := hes.1
  rw [cats, toNode, StateT.run_bind, he.1]
  · simp only [bind, Except.bind, StateT.bind, StateT.run, hrun]
    exact congrArg (fun node ↦ Except.ok (node, _)) (joined_of_ne_empty a b he.2 hes.2)
  · exact List.cons_ne_nil _ _

/-- Parts in front of a sequence of nodes. -/
theorem becomes_append {es fs : List Expr} {as bs : List Node}
    (hes : List.Forall₂ Becomes es as) (hfs : (cats fs).Becomes (Node.cats bs)) (hfne : fs ≠ [])
    (hbne : bs ≠ []) : (cats (es ++ fs)).Becomes (Node.cats (as ++ bs)) := by
  induction hes with
  | nil => exact hfs
  | cons he _ ih =>
    rename_i e a es as _
    obtain ⟨b, bs', hb⟩ := List.exists_cons_of_ne_nil (List.append_ne_nil_of_right_ne_nil as hbne)
    have := he.cons ih (List.append_ne_nil_of_right_ne_nil es hfne)
    rw [List.cons_append, List.cons_append, hb]
    rwa [hb] at this

theorem forall₂_becomes_word (w : List Char) :
    List.Forall₂ Becomes (w.map Expr.char) (Node.word w) := by
  induction w with
  | nil => exact .nil
  | cons c w ih => exact .cons (becomes_char c) ih

end Expr

/-! ### Whole patterns -/

/-- A text that is read to its end with no group left open is a sequence of parts. -/
theorem written_read_of_readAll {s : List Char} {es : List Expr} {groups : ℕ}
    {names : List (List Char × ℕ)}
    (hread : ReadState.readAll (s.length + 1) ⟨false, [], [], [], 0, []⟩ s =
      .ok ⟨false, es.reverse, [], [], groups, names⟩)
    (hdepth : (Expr.cats es).depth false false ≤ depthLimit) :
    Written.read s = .ok ⟨Expr.cats es, names⟩ := by
  have hfinish : ReadState.finish ⟨false, es.reverse, [], [], groups, names⟩ = Expr.cats es :=
    congrArg Expr.cats es.reverse_reverse
  rw [Written.read, hread]
  show (if depthLimit < (ReadState.finish _).depth false false then _ else _) = _
  rw [hfinish, if_neg (Nat.not_lt.2 hdepth)]
  rfl

/-- **A pattern means what is written**, unless it is too large. -/
theorem read_of_written {s : List Char} {e : Expr} {names : List (List Char × ℕ)} {node : Node}
    (hwritten : Written.read s = .ok ⟨e, names⟩) (hnode : e.Becomes node) :
    Pattern.read s = if sizeLimit < e.size then .error .tooLarge else .ok ⟨node, names⟩ := by
  rw [Pattern.read, hwritten]
  show (if sizeLimit < e.size then _ else _) = _
  split
  · rfl
  · rw [hnode.1]
    rfl

/-! ### Templates with a gap -/

/-- A template with a gap for a word: the texts before and behind the gap, the parts that they are
read as, and the nodes that the parts mean. What is behind the gap is read to the end whatever was
read before. No question mark may follow what is before the gap, for it would change a repetition
there. -/
structure Gapped where
  before : List Char
  behind : List Char
  beforeParts : List Expr
  behindParts : List Expr
  beforeNodes : List Node
  behindNodes : List Node
  groups : ℕ
  names : List (List Char × ℕ)
  read_before : ∃ k ≤ before.length, ∀ n rest, '?' ∉ rest.head? →
    ReadState.readAll (n + k) ⟨false, [], [], [], 0, []⟩ (before ++ rest) =
      ReadState.readAll n ⟨false, beforeParts.reverse, [], [], 0, []⟩ rest
  read_behind : ∃ k ≤ behind.length + 1, ∀ n parts,
    ReadState.readAll (n + k) ⟨false, parts, [], [], 0, []⟩ behind =
      .ok ⟨false, behindParts.reverse ++ parts, [], [], groups, names⟩
  head?_behind : '?' ∉ behind.head?
  depth_lt : ∀ e ∈ beforeParts ++ behindParts, ∀ inCat inAlt, e.depth inCat inAlt < depthLimit
  becomes_before : List.Forall₂ Expr.Becomes beforeParts beforeNodes
  becomes_behind : (Expr.cats behindParts).Becomes (Node.cats behindNodes)
  behindParts_ne_nil : behindParts ≠ []
  behindNodes_ne_nil : behindNodes ≠ []

namespace Gapped

variable (t : Gapped) (w : List Char)

/-- The text of the pattern with a word in the gap. -/
def text : List Char :=
  t.before ++ (escape w ++ t.behind)

/-- The parts of the pattern with a word in the gap. -/
def parts : List Expr :=
  t.beforeParts ++ (w.map Expr.char ++ t.behindParts)

/-- The meaning of the pattern with a word in the gap. -/
def node : Node :=
  Node.cats (t.beforeNodes ++ (Node.word w ++ t.behindNodes))

/-- The size of the pattern without a word in the gap. -/
def size : ℕ :=
  (Expr.cats (t.beforeParts ++ t.behindParts)).size

/-- The reader goes through the text before the gap, the word and the text behind the gap. -/
theorem readAll_text :
    ReadState.readAll ((t.text w).length + 1) ⟨false, [], [], [], 0, []⟩ (t.text w) =
      .ok ⟨false, (t.parts w).reverse, [], [], t.groups, t.names⟩ := by
  obtain ⟨k, hk, hbefore⟩ := t.read_before
  obtain ⟨m, hm, hbehind⟩ := t.read_behind
  have hw := length_le_length_escape w
  -- one step per character suffices, so there are enough for the three texts in turn
  have hlen : (t.text w).length + 1 =
      (t.text w).length + 1 - k - w.length - m + m + w.length + k := by
    simp only [text, List.length_append]
    omega
  rw [hlen, text, hbefore _ _ (head?_escape_append t.head?_behind w), ReadState.readAll_escape w _ rfl,
    ReadState.pushWord, hbehind]
  simp [parts]

theorem depth_parts_le : (Expr.cats (t.parts w)).depth false false ≤ depthLimit := by
  have h : ∀ e ∈ t.parts w, ∀ inCat inAlt, e.depth inCat inAlt ≤ depthLimit - 1 := by
    intro e he inCat inAlt
    have hmem : e ∈ t.beforeParts ++ t.behindParts ∨ e ∈ w.map Expr.char := by
      simp only [parts, List.mem_append] at he ⊢
      tauto
    rcases hmem with hmem | hmem
    · have := t.depth_lt e hmem inCat inAlt
      omega
    · exact (Expr.depth_eq_zero_of_mem_word hmem inCat inAlt).trans_le (Nat.zero_le _)
  exact Expr.depth_cats_le h false false

theorem size_parts : (Expr.cats (t.parts w)).size = t.size + 32 * Utf8.size w :=
  Expr.size_cats_word t.behindParts_ne_nil t.beforeParts w

theorem becomes_parts : (Expr.cats (t.parts w)).Becomes (t.node w) := by
  refine Expr.becomes_append t.becomes_before ?_ ?_ ?_
  · exact Expr.becomes_append (Expr.forall₂_becomes_word w) t.becomes_behind t.behindParts_ne_nil
      t.behindNodes_ne_nil
  · exact List.append_ne_nil_of_right_ne_nil _ t.behindParts_ne_nil
  · exact List.append_ne_nil_of_right_ne_nil _ t.behindNodes_ne_nil

theorem written_read_text : Written.read (t.text w) = .ok ⟨Expr.cats (t.parts w), t.names⟩ :=
  written_read_of_readAll (t.readAll_text w) (t.depth_parts_le w)

/-- **A pattern with a literal word.** It is what the template and the word make it, unless it is
too large. -/
theorem read_text : Pattern.read (t.text w) =
    if sizeLimit < t.size + 32 * Utf8.size w then .error .tooLarge
    else .ok ⟨t.node w, t.names⟩ := by
  rw [read_of_written (t.written_read_text w) (t.becomes_parts w), t.size_parts w]

end Gapped

end Unscramble.Pattern

import Unscramble.Proofs.Lookup
import Unscramble.Proofs.Pattern.Answer
import Unscramble.Proofs.Recognizers
import Unscramble.Proofs.Text.Balanced

/-!
# What is captured of an object

The recognizers of the table text know nothing about nesting. They look for the name of an object
and an opening brace, and capture as little as possible, but at least one character, up to a closing
brace behind which the text looks like the end of a definition: it has a semicolon or, for an object
that is assigned, a comma and another assignment. So the captured text is what the text behind the
opening brace is *cut off* behind, and that need not be the body of the object. A brace within a
helper may have a semicolon behind it. The object may be empty, and then its closing brace is
captured together with all that follows up to a later one. And its closing brace may have nothing
behind it that ends a definition.

There are three recognizers, which differ in the white space that they allow and in what they take
for an end. `ObjectForm` lists them with the parts of their patterns.

## Main definitions

* `declaredTemplate`, `assignedTemplate`: the templates of the second and third recognizer.
* `ObjectForm.Opens`, `ObjectForm.Closes`: the text in front of the opening brace, and behind the
  closing one.
* `ObjectForm.CutsBehind`: where a text behind an opening brace is cut off.

## Main statements

* `ObjectForm.exists_cutsBehind_of_first`: a match captures what the text is cut off behind.
* `ObjectForm.CutsBehind.unique`: a text is cut off at one place only.
* `Lookups.tableText_balanced_iff`: when a captured text is balanced.
-/

namespace Unscramble

open Unscramble.Text Unscramble.Pattern
open Pattern.Expr (blanks words literal)
open Pattern.Node (word plus plusLazy)

/-! ### The recognizers as patterns -/

/-- The second recognizer of the table text: the object is declared. -/
def tableDeclared : Recognizer :=
  ⟨"declared-object", r"(?:var|let|const)\s+{name}\s*=\s*" ++ Template.braced ++ r"\s*;"⟩

/-- The third recognizer of the table text: the object is assigned. -/
def tableAssigned : Recognizer :=
  ⟨"assigned-object",
    r"(?:^|[^\w$.]){name}\s*=\s*" ++ Template.braced ++ r"\s*(?:;|,\s*[\w$]+\s*=)"⟩

/-- The characters of a table text as they are written. -/
def bracedExpr : ClassExpr :=
  .union (.union (.union (.union (.union (.union (.union (.union (.union (.union (.union
    (.union (.union (.union (.union .empty (.letter false .word)) (.char '$')) (.char ','))
    (.char ';')) (.char '%')) (.char '.')) (.char '(')) (.char ')')) (.char '['))
    (.char ']')) (.char ':')) (.char '=')) (.char '\x7b')) (.char '\x7d'))
    (.letter false .blank)

/-- The parts from the name of an object to the end of its braces. -/
def bracedParts : List Expr :=
  [blanks, .char '=', blanks, .byte 0x7B,
    .group (.capture 1) (.loop 1 none false (.cls (.bracket false bracedExpr))), .byte 0x7D, blanks]

/-- The characters of an assigned name. -/
def dollarClass : CharClass :=
  .union .word (.only '$')

/-- A repetition is greedy if no question mark follows it. -/
theorem readGreed_of_head? {s : List Char} (h : '?' ∉ s.head?) : readGreed s = (true, s) := by
  rw [readGreed]
  rintro r rfl
  exact h rfl

/-- The text of the recognizer of a declared object in front of the name. -/
def declaredBefore : Spelled r"(?:var|let|const)\s+" :=
  .of rfl

/-- The words that declare an object, as they are written. -/
def declaringExpr : Expr :=
  .group (.switched ⟨[], []⟩) (.alt (.cats (literal "var")) (.alt (.cats (literal "let"))
    (.cats (literal "const"))))

/-- The last repetition is greedy, because no question mark follows it. -/
theorem readAll_declaredBefore {rest : List Char} (h : '?' ∉ rest.head?) (n : ℕ) :
    ReadState.readAll (n + 17) ⟨false, [], [], [], 0, []⟩ (declaredBefore.chars ++ rest) =
      ReadState.readAll n ⟨false, [.loop 1 none true (.cls (.letter false .blank)), declaringExpr],
        [], [], 0, []⟩ rest := by
  show ReadState.readAll (n + 1) ⟨false, [.cls (.letter false .blank), declaringExpr],
    [], [], 0, []⟩ ('+' :: rest) = _
  show (ReadState.step _ '+' rest >>= _) = _
  rw [ReadState.step, readGreed_of_head? h]
  rfl

/-- The text of the recognizer of a declared object behind the name. -/
def declaredBehind : Spelled (r"\s*=\s*" ++ Template.braced ++ r"\s*;") :=
  .append (.append (.of rfl) (.of rfl)) (.of rfl)

set_option maxRecDepth 4000 in
/-- The template of the recognizer of a declared object. -/
def declaredTemplate : Gapped where
  before := declaredBefore.chars
  behind := declaredBehind.chars
  beforeParts := [declaringExpr, .loop 1 none true (.cls (.letter false .blank))]
  behindParts := bracedParts ++ [.char ';']
  beforeNodes :=
    [.alt (.cats (word "var".toList)) (.alt (.cats (word "let".toList))
      (.cats (word "const".toList))), plus .blank]
  behindNodes := [Node.blanks, .char '=', Node.blanks, .char '\x7b',
    .group 1 (plusLazy bracedClass), .char '\x7d', Node.blanks, .char ';']
  groups := 1
  names := [(Recognizer.valueGroup, 1)]
  read_before := ⟨17, by decide, fun n rest h ↦ readAll_declaredBefore h n⟩
  read_behind := ⟨20, by decide, fun n parts ↦ rfl⟩
  head?_behind := by decide
  depth_lt := by decide
  becomes_before := .cons ⟨rfl, nofun⟩ (.cons ⟨rfl, nofun⟩ .nil)
  becomes_behind := ⟨rfl, nofun⟩
  behindParts_ne_nil := nofun
  behindNodes_ne_nil := nofun

/-- The text of the recognizer of an assigned object in front of the name. -/
def assignedBefore : Spelled r"(?:^|[^\w$.])" :=
  .of rfl

/-- The text of the recognizer of an assigned object behind the name. -/
def assignedBehind : Spelled (r"\s*=\s*" ++ Template.braced ++ r"\s*(?:;|,\s*[\w$]+\s*=)") :=
  .append (.append (.of rfl) (.of rfl)) (.of rfl)

set_option maxRecDepth 4000 in
/-- The template of the recognizer of an assigned object. -/
def assignedTemplate : Gapped where
  before := assignedBefore.chars
  behind := assignedBehind.chars
  beforeParts :=
    [.group (.switched ⟨[], []⟩) (.alt (.assertion .caret) (.cls (.bracket true
      (.union (.union (.union .empty (.letter false .word)) (.char '$')) (.char '.')))))]
  behindParts := bracedParts ++ [.group (.switched ⟨[], []⟩) (.alt (.char ';') (.cats
    [.char ',', blanks, .loop 1 none true (.cls (.bracket false
      (.union (.union .empty (.letter false .word)) (.char '$')))), blanks, .char '=']))]
  beforeNodes := [.alt (.look .start) (.one (.not (.union (.union .word (.only '$')) (.only '.'))))]
  behindNodes := [Node.blanks, .char '=', Node.blanks, .char '\x7b',
    .group 1 (plusLazy bracedClass), .char '\x7d', Node.blanks, .alt (.char ';')
      (.cats [.char ',', Node.blanks, plus dollarClass, Node.blanks, .char '='])]
  groups := 1
  names := [(Recognizer.valueGroup, 1)]
  read_before := ⟨5, by decide, fun n rest _ ↦ rfl⟩
  read_behind := ⟨30, by decide, fun n parts ↦ rfl⟩
  head?_behind := by decide
  depth_lt := by decide
  becomes_before := .cons ⟨rfl, nofun⟩ .nil
  becomes_behind := ⟨rfl, nofun⟩
  behindParts_ne_nil := nofun
  behindNodes_ne_nil := nofun

/-- The whole text of the recognizer of a declared object, cut at the gap. -/
def declaredText : Spelled tableDeclared.template :=
  .append (.append (.of (l := declaredBefore.chars ++ (placeholder ++ declaredBehind.chars.take 7))
    rfl) (.of rfl)) (.of rfl)

/-- The whole text of the recognizer of an assigned object, cut at the gap. -/
def assignedText : Spelled tableAssigned.template :=
  .append (.append (.of (l := assignedBefore.chars ++ (placeholder ++ assignedBehind.chars.take 7))
    rfl) (.of rfl)) (.of rfl)

theorem tableDeclared_patternText (name : List Char) :
    tableDeclared.patternText (some name) = declaredTemplate.text (identifierOf name) :=
  Recognizer.patternText_of_gapped declaredText.toList_eq (by decide) (by decide) name

theorem tableAssigned_patternText (name : List Char) :
    tableAssigned.patternText (some name) = assignedTemplate.text (identifierOf name) :=
  Recognizer.patternText_of_gapped assignedText.toList_eq (by decide) (by decide) name

/-! ### Forms of definitions -/

/-- A form in which a script says what an object is. -/
inductive ObjectForm
  /-- The object is declared with `var`, with no white space but one space. -/
  | usual
  /-- The object is declared, with any white space. -/
  | declared
  /-- The object is assigned to its name. -/
  | assigned

namespace ObjectForm

/-- The recognizer of a form. -/
def recognizer : ObjectForm → Recognizer
  | usual => tableVar
  | declared => tableDeclared
  | assigned => tableAssigned

/-- The template of a form. -/
def template : ObjectForm → Gapped
  | usual => tableTemplate
  | declared => declaredTemplate
  | assigned => assignedTemplate

/-- The parts between the name of the object and the brace. -/
def assigning : ObjectForm → List Node
  | usual => [.char '=']
  | declared | assigned => [Node.blanks, .char '=', Node.blanks]

/-- The parts behind the closing brace. -/
def closing : ObjectForm → List Node
  | usual => [.char ';']
  | declared => [Node.blanks, .char ';']
  | assigned => [Node.blanks, .alt (.char ';')
      (.cats [.char ',', Node.blanks, plus dollarClass, Node.blanks, .char '='])]

/-- The text in front of the opening brace. -/
def Opens : ObjectForm → (name before : List Char) → Prop
  | usual, name, s => ∃ u, s = u ++ ("var ".toList ++ (name ++ ['=']))
  | declared, name, s => ∃ u, ∃ k ∈ ["var".toList, "let".toList, "const".toList], ∃ b b₁ b₂,
      b ≠ [] ∧ (∀ x ∈ b ++ (b₁ ++ b₂), isBlank x = true) ∧
        s = u ++ (k ++ (b ++ (name ++ (b₁ ++ '=' :: b₂))))
  | assigned, name, s => ∃ u b₁ b₂,
      (∀ x ∈ u.getLast?, dollarClass.has x = false ∧ x ≠ '.') ∧
        (∀ x ∈ b₁ ++ b₂, isBlank x = true) ∧ s = u ++ (name ++ (b₁ ++ '=' :: b₂))

/-- The text behind the closing brace. -/
def Closes : ObjectForm → List Char → Prop
  | usual, s => ∃ r, s = ';' :: r
  | declared, s => ∃ b r, (∀ x ∈ b, isBlank x = true) ∧ s = b ++ ';' :: r
  | assigned, s => ∃ b r, (∀ x ∈ b, isBlank x = true) ∧ (s = b ++ ';' :: r ∨
      ∃ b₁ n b₂, (∀ x ∈ b₁ ++ b₂, isBlank x = true) ∧ n ≠ [] ∧
        (∀ x ∈ n, dollarClass.has x = true) ∧
          s = b ++ ',' :: (b₁ ++ (n ++ (b₂ ++ '=' :: r))))

variable {f : ObjectForm} {p q : Place}

theorem exists_recognizer {r : Recognizer} (h : r ∈ tableRecognizers) :
    ∃ f : ObjectForm, r = f.recognizer := by
  rcases h with - | ⟨-, - | ⟨-, - | ⟨-, h⟩⟩⟩
  · exact ⟨usual, rfl⟩
  · exact ⟨declared, rfl⟩
  · exact ⟨assigned, rfl⟩
  · cases h

theorem patternText_recognizer (f : ObjectForm) (name : List Char) :
    f.recognizer.patternText (some name) = f.template.text (identifierOf name) := by
  cases f with
  | usual => exact tableVar_patternText name
  | declared => exact tableDeclared_patternText name
  | assigned => exact tableAssigned_patternText name

theorem behindNodes_template (f : ObjectForm) : f.template.behindNodes = f.assigning ++
    (.char '\x7b' :: .group 1 (plusLazy bracedClass) :: .char '\x7d' :: f.closing) := by
  cases f <;> rfl

theorem names_template (f : ObjectForm) : f.template.names = [(Recognizer.valueGroup, 1)] := by
  cases f <;> rfl

/-! ### What stands around the braces -/

theorem closes_of_mem_runs (h : q ∈ (Node.cats f.closing).runs p) :
    f.Closes p.rest ∧ q.captured? 1 = p.captured? 1 := by
  cases f with
  | usual =>
    obtain ⟨r, hr, rfl⟩ := Node.mem_runs_char.1 h
    exact ⟨⟨r, hr⟩, rfl⟩
  | declared =>
    obtain ⟨m, hm, h⟩ := Node.mem_runs_cats_cons.1 h
    obtain ⟨b, s, hb, hblank, rfl⟩ := Node.mem_runs_many.1 hm
    obtain ⟨r, rfl, rfl⟩ := Node.mem_runs_char.1 h
    exact ⟨⟨b, r, hblank, hb⟩, rfl⟩
  | assigned =>
    obtain ⟨m, hm, h⟩ := Node.mem_runs_cats_cons.1 h
    obtain ⟨b, s, hb, hblank, rfl⟩ := Node.mem_runs_many.1 hm
    rcases Node.mem_runs_alt.1 h with h | h
    · obtain ⟨r, rfl, rfl⟩ := Node.mem_runs_char.1 h
      exact ⟨⟨b, r, hblank, .inl hb⟩, rfl⟩
    · obtain ⟨_, toComma, h⟩ := Node.mem_runs_cats_cons.1 h
      obtain ⟨s₁, rfl, rfl⟩ := Node.mem_runs_char.1 toComma
      obtain ⟨_, toBlanks₁, h⟩ := Node.mem_runs_cats_cons.1 h
      obtain ⟨b₁, s₂, rfl, hb₁, rfl⟩ := Node.mem_runs_many.1 toBlanks₁
      obtain ⟨_, toName, h⟩ := Node.mem_runs_cats_cons.1 h
      obtain ⟨n, s₃, rfl, hne, hn, rfl⟩ := Node.mem_runs_plus.1 toName
      obtain ⟨_, toBlanks₂, h⟩ := Node.mem_runs_cats_cons.1 h
      obtain ⟨b₂, s₄, rfl, hb₂, rfl⟩ := Node.mem_runs_many.1 toBlanks₂
      obtain ⟨r, rfl, rfl⟩ := Node.mem_runs_char.1 h
      have hblanks : ∀ x ∈ b₁ ++ b₂, isBlank x = true := List.forall_mem_append.2 ⟨hb₁, hb₂⟩
      exact ⟨⟨b, r, hblank, .inr ⟨b₁, n, b₂, hblanks, hne, hn, hb⟩⟩, rfl⟩

/-- The closing parts can run where a text closes an object. -/
theorem exists_mem_runs_of_closes (h : f.Closes p.rest) :
    ∃ q, q ∈ (Node.cats f.closing).runs p := by
  cases f with
  | usual =>
    obtain ⟨r, hr⟩ := h
    exact ⟨_, Node.mem_runs_char.2 ⟨r, hr, rfl⟩⟩
  | declared =>
    obtain ⟨b, r, hb, hr⟩ := h
    refine Node.exists_mem_runs_cats_cons (Node.mem_runs_many.2 ⟨b, _, hr, hb, rfl⟩) ?_
    exact ⟨_, Node.mem_runs_char.2 ⟨r, rfl, rfl⟩⟩
  | assigned =>
    obtain ⟨b, r, hb, hr | ⟨b₁, n, b₂, hblanks, hne, hn, hr⟩⟩ := h
    · refine Node.exists_mem_runs_cats_cons (Node.mem_runs_many.2 ⟨b, _, hr, hb, rfl⟩) ?_
      exact ⟨_, Node.mem_runs_alt.2 (.inl (Node.mem_runs_char.2 ⟨r, rfl, rfl⟩))⟩
    · obtain ⟨hb₁, hb₂⟩ := List.forall_mem_append.1 hblanks
      refine Node.exists_mem_runs_cats_cons (Node.mem_runs_many.2 ⟨b, _, hr, hb, rfl⟩) ?_
      suffices hassign : ∃ q, q ∈ (Node.cats [.char ',', Node.blanks, plus dollarClass,
          Node.blanks, .char '=']).runs (p.after b (',' :: (b₁ ++ (n ++ (b₂ ++ '=' :: r))))) from
        hassign.imp fun _ hq ↦ Node.mem_runs_alt.2 (.inr hq)
      refine Node.exists_mem_runs_cats_cons (Node.mem_runs_char.2 ⟨_, rfl, rfl⟩) ?_
      refine Node.exists_mem_runs_cats_cons (Node.mem_runs_many.2 ⟨b₁, _, rfl, hb₁, rfl⟩) ?_
      refine Node.exists_mem_runs_cats_cons (Node.mem_runs_plus.2 ⟨n, _, rfl, hne, hn, rfl⟩) ?_
      refine Node.exists_mem_runs_cats_cons (Node.mem_runs_many.2 ⟨b₂, _, rfl, hb₂, rfl⟩) ?_
      exact ⟨_, Node.mem_runs_char.2 ⟨r, rfl, rfl⟩⟩

/-- A name and an equality sign with white space around it. -/
theorem exists_of_mem_runs_assigning {name : List Char}
    (h : q ∈ (Node.cats (word name ++ [Node.blanks, .char '=', Node.blanks])).runs p) :
    ∃ b₁ b₂, p.rest = name ++ (b₁ ++ '=' :: (b₂ ++ q.rest)) ∧
      ∀ x ∈ b₁ ++ b₂, isBlank x = true := by
  obtain ⟨s₁, hp, h⟩ := Node.mem_runs_word.1 h
  obtain ⟨_, toBlanks, h⟩ := Node.mem_runs_cats_cons.1 h
  obtain ⟨b₁, s₂, rfl, hb₁, rfl⟩ := Node.mem_runs_many.1 toBlanks
  obtain ⟨_, toSign, h⟩ := Node.mem_runs_cats_cons.1 h
  obtain ⟨s₃, rfl, rfl⟩ := Node.mem_runs_char.1 toSign
  obtain ⟨b₂, s₄, rfl, hb₂, rfl⟩ := Node.mem_runs_many.1 h
  exact ⟨b₁, b₂, hp, List.forall_mem_append.2 ⟨hb₁, hb₂⟩⟩

/-- **The parts in front of the brace** run over a text that opens an object of the name. -/
theorem opens_of_mem_runs {name u : List Char} (hlast : p.last = u.getLast?)
    (h : q ∈ (Node.cats (f.template.beforeNodes ++ (word name ++ f.assigning))).runs p) :
    ∃ s, p.rest = s ++ q.rest ∧ f.Opens name (u ++ s) := by
  cases f with
  | usual =>
    obtain ⟨s₁, hp, h⟩ := Node.mem_runs_word.1 h
    obtain ⟨s₂, rfl, h⟩ := Node.mem_runs_word.1 h
    obtain ⟨r, rfl, rfl⟩ := Node.mem_runs_char.1 h
    exact ⟨"var ".toList ++ (name ++ ['=']), by rw [hp]; simp, u, rfl⟩
  | declared =>
    obtain ⟨m, toWord, h⟩ := Node.mem_runs_cats_cons.1 h
    obtain ⟨k, hk, s₁, hp, rfl⟩ : ∃ k ∈ ["var".toList, "let".toList, "const".toList],
        ∃ s₁, p.rest = k ++ s₁ ∧ m = p.after k s₁ := by
      rcases Node.mem_runs_alt.1 toWord with hm | hm
      · exact ⟨_, by simp, Node.mem_runs_cats_word.1 hm⟩
      · rcases Node.mem_runs_alt.1 hm with hm | hm <;>
        exact ⟨_, by simp, Node.mem_runs_cats_word.1 hm⟩
    obtain ⟨_, toBlanks, h⟩ := Node.mem_runs_cats_cons.1 h
    obtain ⟨b, s₂, rfl, hne, hb, rfl⟩ := Node.mem_runs_plus.1 toBlanks
    obtain ⟨b₁, b₂, rfl, hblanks⟩ := exists_of_mem_runs_assigning h
    refine ⟨k ++ (b ++ (name ++ (b₁ ++ '=' :: b₂))), by rw [hp]; simp, u, k, hk, b, b₁, b₂, hne,
      List.forall_mem_append.2 ⟨hb, hblanks⟩, rfl⟩
  | assigned =>
    obtain ⟨m, toName, h⟩ := Node.mem_runs_cats_cons.1 h
    obtain ⟨b₁, b₂, hm, hblanks⟩ := exists_of_mem_runs_assigning h
    rcases Node.mem_runs_alt.1 toName with toStart | toOther
    · -- there is nothing in front of the name
      obtain ⟨hstart, rfl⟩ := Node.mem_runs_look.1 toStart
      have hnone : u.getLast? = none := by
        rw [← hlast]
        exact Option.isNone_iff_eq_none.1 hstart
      refine ⟨name ++ (b₁ ++ '=' :: b₂), by rw [hm]; simp, u, b₁, b₂, ?_, hblanks, rfl⟩
      rw [hnone]
      rintro x ⟨⟩
    · obtain ⟨x, s, hp, hx, rfl⟩ := Node.mem_runs_one.1 toOther
      obtain rfl : s = _ := hm
      refine ⟨x :: (name ++ (b₁ ++ '=' :: b₂)), by rw [hp]; simp, u ++ [x], b₁, b₂, ?_, hblanks,
        by simp⟩
      rw [List.getLast?_concat]
      rintro y ⟨⟩
      simpa [CharClass.has, dollarClass, CharClass.has_only] using hx

/-! ### Where an object is cut off -/

/-- A text behind an opening brace is cut off behind `w`, which is not empty: the brace behind `w`
is the first one behind which the text closes an object. -/
structure CutsBehind (f : ObjectForm) (w rest : List Char) : Prop where
  ne_nil : w ≠ []
  closes : f.Closes rest
  not_closes : ∀ u v, w = u ++ '\x7d' :: v → u ≠ [] → ¬ f.Closes (v ++ '\x7d' :: rest)

/-- A text is cut off at one place only. -/
theorem CutsBehind.unique {w w' r r' : List Char} (h : f.CutsBehind w r) (h' : f.CutsBehind w' r')
    (heq : w ++ '\x7d' :: r = w' ++ '\x7d' :: r') : w = w' := by
  rcases eq_or_of_append_cons_eq heq with rfl | ⟨u, rfl, rfl⟩ | ⟨u, rfl, rfl⟩
  · rfl
  · exact absurd h.closes (h'.not_closes w u rfl h.ne_nil)
  · exact absurd h'.closes (h.not_closes w' u rfl h'.ne_nil)

/-- **A match captures what the text is cut off behind.** -/
theorem exists_cutsBehind_of_first {name : List Char}
    (h : (f.template.node name).first p some = some q) :
    ∃ m ∈ (Node.cats (f.template.beforeNodes ++ (word name ++ f.assigning))).runs p, ∃ w rest,
      m.rest = '\x7b' :: (w ++ '\x7d' :: rest) ∧ q.captured? 1 = some w ∧ f.CutsBehind w rest := by
  rw [Gapped.node, behindNodes_template, ← List.append_assoc (word name), ← List.append_assoc] at h
  obtain ⟨m, hm, h⟩ := Node.exists_of_first_append h
  refine ⟨m, hm, ?_⟩
  rw [Node.first_cats_cons] at h
  obtain ⟨m₁, toBrace, h⟩ := Node.exists_mem_runs_of_first h
  obtain ⟨s, hs, rfl⟩ := Node.mem_runs_char.1 toBrace
  rw [Node.first_cats_cons, Node.first_group] at h
  -- the lazy class stops behind `x :: w`
  obtain ⟨x, w, rest', hrest, -, hstops⟩ := Node.exists_stopsBehind_of_plusLazy h
  obtain rfl : s = x :: (w ++ rest') := hrest
  obtain ⟨q', hq', hsome⟩ := Node.exists_mem_runs_of_first hstops.answer
  obtain rfl : q' = q := Option.some.inj hsome
  obtain ⟨m₂, toEnd, hq'⟩ := Node.mem_runs_cats_cons.1 hq'
  obtain ⟨rest, hclose, rfl⟩ := Node.mem_runs_char.1 toEnd
  obtain rfl : rest' = '\x7d' :: rest := hclose
  obtain ⟨hcloses, hcaptured⟩ := closes_of_mem_runs hq'
  refine ⟨x :: w, rest, hs, ?_, List.cons_ne_nil x w, hcloses, ?_⟩
  · rw [hcaptured, Place.captured?_after]
    refine Place.captured?_close_self (w := x :: w) rfl 1 _ ?_
    simp only [Place.after, List.length_cons, List.length_nil]
    omega
  · intro u v huv hu hclosed
    obtain ⟨y, u, rfl⟩ := List.exists_cons_of_ne_nil hu
    obtain ⟨rfl, rfl⟩ := List.cons.inj huv
    have hnone := hstops.none_before u ('\x7d' :: v) rfl (List.cons_ne_nil _ v)
    rw [Node.first_eq_none_iff] at hnone
    generalize hplace : Place.close _ 1 _ = place at hnone
    have hbrace : place.rest = '\x7d' :: (v ++ '\x7d' :: rest) := by
      rw [← hplace]
      rfl
    obtain ⟨q, hq⟩ := Node.exists_mem_runs_cats_cons (Node.mem_runs_char.2 ⟨_, hbrace, rfl⟩)
      (exists_mem_runs_of_closes hclosed)
    cases hnone q hq

/-- What the recognizer of a form captures. -/
theorem exists_cutsBehind_of_recognize {name text w : List Char} (hname : '%' ∉ name)
    (h : f.recognizer.recognize text (some name) = .ok (some w)) :
    ∃ before rest, text = before ++ '\x7b' :: (w ++ '\x7d' :: rest) ∧ f.Opens name before ∧
      f.CutsBehind w rest := by
  obtain ⟨u, v, q, rfl, hfirst, hq⟩ :=
    Recognizer.exists_first_of_gapped (f.patternText_recognizer name) hname f.names_template h
  obtain ⟨m, hm, w', rest, hrest, hcaptured, hcuts⟩ := exists_cutsBehind_of_first hfirst
  obtain rfl : w' = w := Option.some.inj (hcaptured.symm.trans hq)
  obtain ⟨s, hv, hopens⟩ := opens_of_mem_runs (u := u) Option.or_none hm
  obtain rfl : v = s ++ m.rest := hv
  exact ⟨u ++ s, rest, by rw [hrest, List.append_assoc], hopens, hcuts⟩

end ObjectForm

/-- **A captured table text is balanced exactly if the object is cut off behind its own body.** This
means that the body is not empty, that the text behind its closing brace closes an object, and that
no brace within the body has such a text behind it. The body is the balanced text between the braces
of the object, of which there is at most one. In any case the captured text is what an object of the
name is cut off behind. -/
theorem Lookups.tableText_balanced_iff {script name w : List Char}
    (hname : ∀ c ∈ name, isWord c = true ∨ c = '$')
    (h : (standard.tableText script name).outcome = .ok w) :
    ∃ (f : ObjectForm) (before rest : List Char),
      flatten script = before ++ '\x7b' :: (w ++ '\x7d' :: rest) ∧ f.Opens name before ∧
      f.CutsBehind w rest ∧
      ∀ b r, w ++ '\x7d' :: rest = b ++ '\x7d' :: r → Balanced b →
        (Balanced w ↔ f.CutsBehind b r) := by
  have hpercent : '%' ∉ name := by
    intro hmem
    have := hname _ hmem
    revert this
    decide
  obtain ⟨r, hmem, hr⟩ := Lookup.exists_of_outcome_run h
  obtain ⟨f, rfl⟩ := ObjectForm.exists_recognizer hmem
  obtain ⟨before, rest, htext, hopens, hcuts⟩ :=
    ObjectForm.exists_cutsBehind_of_recognize hpercent hr
  refine ⟨f, before, rest, htext, hopens, hcuts, fun b r hbody hb ↦ ⟨fun hw ↦ ?_, fun hcuts' ↦ ?_⟩⟩
  · obtain rfl := hw.unique hb hbody
    obtain rfl : rest = r := by simpa using hbody
    exact hcuts
  · obtain rfl := hcuts.unique hcuts' hbody
    exact hb

/-! ### A helper that is cut in two -/

/-- A script in which a helper has a block, with a semicolon behind it. -/
def nestedScript : String :=
  "var Qr=\x7bwR:function(a)\x7bif(a)\x7ba.reverse()\x7d;return a\x7d," ++
    "Dd:function(a,b)\x7ba.splice(0,b)\x7d\x7d;"

/-- The characters of that script. -/
def nestedText : Spelled nestedScript :=
  .append (.of rfl) (.of rfl)

/-- The captured text ends within the block of the first helper, and the second helper is lost. -/
theorem Lookups.tableText_nested :
    ∃ w, (standard.tableText nestedScript.toList ['Q', 'r']).outcome = .ok w ∧
      w = "wR:function(a)\x7bif(a)\x7ba.reverse()".toList ∧ ¬ Balanced w ∧
      ∃ (f : ObjectForm) (before rest : List Char),
        flatten nestedScript.toList = before ++ '\x7b' :: (w ++ '\x7d' :: rest) ∧
        f.Opens ['Q', 'r'] before ∧ f.CutsBehind w rest := by
  have hout : (standard.tableText nestedText.chars ['Q', 'r']).outcome =
      .ok "wR:function(a)\x7bif(a)\x7ba.reverse()".toList := by
    refine Lookup.outcome_run_of_captured (r := tableVar) ?_ _
    rw [Recognizer.recognize_of_gapped (tableVar_patternText _) (by decide) rfl]
    decide +kernel
  have hname : ∀ c ∈ ['Q', 'r'], isWord c = true ∨ c = '$' := forall_mem_of_all rfl
  obtain ⟨f, before, rest, htext, hopens, hcuts, -⟩ := tableText_balanced_iff hname hout
  rw [nestedText.toList_eq]
  refine ⟨_, hout, rfl, fun hbalanced ↦ ?_, f, before, rest, htext, hopens, hcuts⟩
  exact absurd hbalanced.count_eq (by decide)

end Unscramble

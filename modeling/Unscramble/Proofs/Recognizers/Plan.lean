import Unscramble.Proofs.Lookup
import Unscramble.Proofs.Pattern.Answer
import Unscramble.Proofs.Pattern.Captures
import Unscramble.Proofs.Pattern.Pieces
import Unscramble.Proofs.Plan
import Unscramble.Proofs.Recognizers.Table

/-!
# Forms of routines

The recognizers of the plan text look for the name of a routine, then for the text of a function,
and capture some of its statements. There are three of them. `RoutineForm` lists them with the parts
of their patterns, which have in common that a definition is a name, a parameter, an opening, the
captured statements and a closing.

Behind the name they all require a character that no identifier has, so that nothing of a longer
identifier can follow. In front of it they differ. A declared routine has white space there. An
assigned one must not have a letter or a digit of ASCII or `$` there, but `_` is admitted, and so
are the letters of other scripts. In the form of old scripts nothing is required at all.

## Main definitions

* `routineTemplate`, `legacyTemplate`: the templates of the second and third recognizer.
* `RoutineForm.Leads`, `RoutineForm.Names`: what belongs to a definition in front of the name, and
  between the name and the parameter.
* `Delimits`: two texts leave what is between them a whole identifier.

## Main statements

* `RoutineForm.mem_runs_before`: the places that a pattern reaches in front of the name.
* `RoutineForm.exists_of_mem_runs_front`: what a pattern runs over in front of the statements.
* `RoutineForm.Opens.delimits_iff`: when the identifier of a definition is the whole name.
-/

namespace Unscramble

open Unscramble.Text Unscramble.Pattern
open Pattern.Expr (blanks words literal)
open Pattern.Node (word plus plusLazy)

/-! ### The recognizers as patterns -/

/-- The second recognizer of the plan text: the routine is declared. -/
def planDeclared : Recognizer :=
  ⟨"declaration-split-join", r"function\s+{name}\s*\(\s*\w+\s*\)" ++ Template.working⟩

/-- The third recognizer of the plan text: the routine is assigned to its name, as in old
scripts. -/
def planLegacy : Recognizer :=
  ⟨"legacy-greedy",
    r#"{name}=function\(\w\)\x7b[a-z=\.\("\)]*;(?P<value>.*);(?:return.+)\x7d"#⟩

/-- The text of the recognizer of a declared routine in front of the name. -/
def routineBefore : Spelled r"function\s+" :=
  .of rfl

/-- The last repetition is greedy, because no question mark follows it. -/
theorem readAll_routineBefore {rest : List Char} (h : '?' ∉ rest.head?) (n : ℕ) :
    ReadState.readAll (n + 10) ⟨false, [], [], [], 0, []⟩ (routineBefore.chars ++ rest) =
      ReadState.readAll n ⟨false, .loop 1 none true (.cls (.letter false .blank)) ::
        (literal "function").reverse, [], [], 0, []⟩ rest := by
  show ReadState.readAll (n + 1) ⟨false, .cls (.letter false .blank) ::
    (literal "function").reverse, [], [], 0, []⟩ ('+' :: rest) = _
  show (ReadState.step _ '+' rest >>= _) = _
  rw [ReadState.step, readGreed_of_head? h]
  rfl

/-- The text of the recognizer of a declared routine behind the name. -/
def routineBehind : Spelled (r"\s*\(\s*\w+\s*\)" ++ Template.working) :=
  .append (.of rfl) (.append (.of rfl) (.of rfl))

/-- The parts from the parameter of a routine to its statements. -/
def routineSplitting : List Node :=
  [Node.blanks, plus .word, Node.blanks, .char ')', Node.blanks, .char '\x7b', Node.blanks,
    plus .word, Node.blanks, .char '=', Node.blanks, plus .word] ++ word ".split(".toList ++
    [Node.blanks, .char '"', .char '"', Node.blanks, .char ')', Node.blanks, .char ';']

set_option maxRecDepth 4000 in
/-- The template of the recognizer of a declared routine. -/
def routineTemplate : Gapped where
  before := routineBefore.chars
  behind := routineBehind.chars
  beforeParts := literal "function" ++ [Pattern.Expr.loop 1 none true (.cls (.letter false .blank))]
  behindParts :=
    [blanks, .char '(', blanks, words, blanks, .char ')', blanks, .byte 0x7B, blanks, words, blanks,
        .char '=', blanks, words] ++ literal ".split(" ++
      [blanks, .char '"', .char '"', blanks, .char ')', blanks, .char ';',
        .group (.capture 1) (.loop 0 none false .dot), .char ';', blanks] ++ literal "return" ++
      [.loop 1 none true (.cls (.letter false .blank)), words] ++ literal ".join(" ++
      [blanks, .char '"', .char '"', blanks, .char ')', blanks, .byte 0x7D]
  beforeNodes := word "function".toList ++ [plus .blank]
  behindNodes :=
    [Node.blanks, .char '('] ++ (routineSplitting ++ planStatements :: planClosing)
  groups := 1
  names := [(Recognizer.valueGroup, 1)]
  read_before := ⟨10, by decide, fun n rest h ↦ readAll_routineBefore h n⟩
  read_behind := ⟨100, by decide, fun n parts ↦ rfl⟩
  head?_behind := by decide
  depth_lt := by decide
  becomes_before := List.rel_append (Expr.forall₂_becomes_word _) (.cons ⟨rfl, nofun⟩ .nil)
  becomes_behind := ⟨rfl, nofun⟩
  behindParts_ne_nil := nofun
  behindNodes_ne_nil := nofun

/-- The text of the recognizer of old scripts behind the name. -/
def legacyBehind :
    Spelled r#"=function\(\w\)\x7b[a-z=\.\("\)]*;(?P<value>.*);(?:return.+)\x7d"# :=
  .of rfl

/-- The characters between the brace and the first semicolon of a routine in old scripts. -/
def legacyClass : CharClass :=
  .union (.union (.union (.union (.union (.range 'a' 'z') (.only '=')) (.only '.')) (.only '('))
    (.only '"')) (.only ')')

/-- The parts from the parameter of a routine in old scripts to its statements. -/
def legacySplitting : List Node :=
  [.one .word, .char ')', .char '\x7b', .many true legacyClass, .char ';']

/-- The parts behind the statements of a routine in old scripts. -/
def legacyClosing : List Node :=
  [.char ';', .cats (word "return".toList ++ [plus (.not (.only '\n'))]), .char '\x7d']

set_option maxRecDepth 4000 in
/-- The template of the recognizer of old scripts. -/
def legacyTemplate : Gapped where
  before := []
  behind := legacyBehind.chars
  beforeParts := []
  behindParts :=
    .char '=' :: (literal "function(" ++ [.cls (.letter false .word), .char ')', .byte 0x7B,
      .loop 0 none true (.cls (.bracket false (.union (.union (.union (.union (.union
        (.union .empty (.range 'a' 'z')) (.char '=')) (.char '.')) (.char '(')) (.char '"'))
        (.char ')')))), .char ';', .group (.capture 1) (.loop 0 none true .dot), .char ';',
      .group (.switched ⟨[], []⟩) (.cats (literal "return" ++ [.loop 1 none true .dot])),
      .byte 0x7D])
  beforeNodes := []
  behindNodes := word "=function(".toList ++
    (legacySplitting ++ .group 1 (.many true (.not (.only '\n'))) :: legacyClosing)
  groups := 1
  names := [(Recognizer.valueGroup, 1)]
  read_before := ⟨0, by decide, fun n rest _ ↦ rfl⟩
  read_behind := ⟨60, by decide, fun n parts ↦ rfl⟩
  head?_behind := by decide
  depth_lt := by decide
  becomes_before := .nil
  becomes_behind := ⟨rfl, nofun⟩
  behindParts_ne_nil := nofun
  behindNodes_ne_nil := nofun

/-- The whole text of the recognizer of a declared routine, cut at the gap. -/
def routineText : Spelled planDeclared.template :=
  .append (.of (l := routineBefore.chars ++ (placeholder ++ routineBehind.chars.take 16)) rfl)
    (.append (.of rfl) (.of rfl))

/-- The whole text of the recognizer of old scripts, cut at the gap. -/
def legacyText : Spelled planLegacy.template :=
  .of (l := placeholder ++ legacyBehind.chars) rfl

theorem planDeclared_patternText (name : List Char) :
    planDeclared.patternText (some name) = routineTemplate.text (identifierOf name) :=
  Recognizer.patternText_of_gapped routineText.toList_eq (by decide) (by decide) name

theorem planLegacy_patternText (name : List Char) :
    planLegacy.patternText (some name) = legacyTemplate.text (identifierOf name) :=
  Recognizer.patternText_of_gapped legacyText.toList_eq (by decide) (by decide) name

/-! ### Forms of definitions -/

/-- A form in which a script defines a routine. -/
inductive RoutineForm
  /-- The routine is assigned to its name. -/
  | assigned
  /-- The routine is declared. -/
  | declared
  /-- The routine is assigned to its name, as in old scripts. -/
  | legacy

namespace RoutineForm

/-- The recognizer of a form. -/
def recognizer : RoutineForm → Recognizer
  | assigned => planAssigned
  | declared => planDeclared
  | legacy => planLegacy

/-- The template of a form. -/
def template : RoutineForm → Gapped
  | assigned => planTemplate
  | declared => routineTemplate
  | legacy => legacyTemplate

/-- The parts between the name of the routine and its parameter. -/
def naming : RoutineForm → List Node
  | assigned => Node.blanks :: .char '=' :: Node.blanks :: word "function(".toList
  | declared => [Node.blanks, .char '(']
  | legacy => word "=function(".toList

/-- The same parts as pieces. -/
def namePieces : RoutineForm → List Piece
  | assigned => .blanks :: .char '=' :: .blanks :: Piece.text "function(".toList
  | declared => [.blanks, .char '(']
  | legacy => Piece.text "=function(".toList

/-- The parts from the parameter of the routine to its statements. -/
def splitting : RoutineForm → List Node
  | assigned | declared => routineSplitting
  | legacy => legacySplitting

/-- Whether as many statements as possible are captured. -/
def isGreedy : RoutineForm → Bool
  | assigned | declared => false
  | legacy => true

/-- The parts behind the statements of the routine. -/
def closing : RoutineForm → List Node
  | assigned | declared => planClosing
  | legacy => legacyClosing

/-- What is taken in front of the name, behind a text. -/
def Leads : RoutineForm → (before lead : List Char) → Prop
  | assigned, s, l => (s = [] ∧ l = []) ∨ ∃ x, l = [x] ∧ nameClass.has x = false
  | declared, _, l => ∃ b, b ≠ [] ∧ (∀ x ∈ b, isBlank x = true) ∧ l = "function".toList ++ b
  | legacy, _, l => l = []

/-- The text in front of the name. -/
def Opens : RoutineForm → (before : List Char) → Prop
  | assigned, s => ∀ x ∈ s.getLast?, nameClass.has x = false
  | declared, s => ∃ u b, b ≠ [] ∧ (∀ x ∈ b, isBlank x = true) ∧ s = u ++ ("function".toList ++ b)
  | legacy, _ => True

/-- The text between the name and the parameter. -/
def Names : RoutineForm → List Char → Prop
  | assigned, s => ∃ b₁ b₂, (∀ x ∈ b₁ ++ b₂, isBlank x = true) ∧
      s = b₁ ++ '=' :: (b₂ ++ "function(".toList)
  | declared, s => ∃ b, (∀ x ∈ b, isBlank x = true) ∧ s = b ++ ['(']
  | legacy, s => s = "=function(".toList

variable {f : RoutineForm} {p q : Place}

theorem exists_recognizer {r : Recognizer} (h : r ∈ planRecognizers) :
    ∃ f : RoutineForm, r = f.recognizer := by
  rcases h with - | ⟨-, - | ⟨-, - | ⟨-, h⟩⟩⟩
  · exact ⟨assigned, rfl⟩
  · exact ⟨declared, rfl⟩
  · exact ⟨legacy, rfl⟩
  · cases h

theorem patternText_recognizer (f : RoutineForm) (name : List Char) :
    f.recognizer.patternText (some name) = f.template.text (identifierOf name) := by
  cases f with
  | assigned => exact planAssigned_patternText name
  | declared => exact planDeclared_patternText name
  | legacy => exact planLegacy_patternText name

theorem names_template (f : RoutineForm) : f.template.names = [(Recognizer.valueGroup, 1)] := by
  cases f <;> rfl

theorem behindNodes_template (f : RoutineForm) : f.template.behindNodes = f.naming ++
    (f.splitting ++ .group 1 (.many f.isGreedy (.not (.only '\n'))) :: f.closing) := by
  cases f with
  | assigned =>
    have hopening : planOpening = assigned.naming ++ routineSplitting := by
      simp only [planOpening, naming, routineSplitting, List.append_assoc, List.cons_append]
    show planOpening ++ planStatements :: planClosing = _
    rw [hopening, List.append_assoc]
    rfl
  | declared => rfl
  | legacy => rfl

/-- The pattern of a form, cut at what it captures. -/
theorem node_template (f : RoutineForm) (name : List Char) : f.template.node name =
    Node.cats ((f.template.beforeNodes ++ (word name ++ (f.naming ++ f.splitting))) ++
      .group 1 (.many f.isGreedy (.not (.only '\n'))) :: f.closing) := by
  rw [Gapped.node, behindNodes_template, ← List.append_assoc f.naming,
    ← List.append_assoc (word name), ← List.append_assoc]

theorem isFree_closing (f : RoutineForm) : (Node.cats f.closing).isFree 1 = true := by
  cases f <;> rfl

/-! ### What stands around the name -/

/-- **In front of the name**, the parts reach every place behind what they take. -/
theorem mem_runs_before {u : List Char} (hlast : p.last = u.getLast?) :
    q ∈ (Node.cats f.template.beforeNodes).runs p ↔
      ∃ lead rest, p.rest = lead ++ rest ∧ f.Leads u lead ∧ q = p.after lead rest := by
  cases f with
  | assigned =>
    constructor
    · intro h
      rcases Node.mem_runs_alt.1 h with toStart | toOther
      · -- there is nothing in front of the name
        obtain ⟨hstart, rfl⟩ := Node.mem_runs_look.1 toStart
        have hnil : u = [] := List.getLast?_eq_none_iff.1 <| by
          rw [← hlast]
          exact Option.isNone_iff_eq_none.1 hstart
        exact ⟨[], q.rest, rfl, .inl ⟨hnil, rfl⟩, (Place.after_nil rfl).symm⟩
      · obtain ⟨x, rest, hp, hx, rfl⟩ := Node.mem_runs_one.1 toOther
        exact ⟨[x], rest, hp, .inr ⟨x, rfl, by simpa [CharClass.has] using hx⟩, rfl⟩
    · rintro ⟨_, rest, hp, ⟨rfl, rfl⟩ | ⟨x, rfl, hx⟩, rfl⟩
      · obtain rfl : p.rest = rest := hp
        rw [Place.after_nil rfl]
        refine Node.mem_runs_alt.2 (.inl (Node.mem_runs_look.2 ⟨?_, rfl⟩))
        exact Option.isNone_iff_eq_none.2 hlast
      · refine Node.mem_runs_alt.2 (.inr (Node.mem_runs_one.2 ⟨x, rest, hp, ?_, rfl⟩))
        simpa [CharClass.has] using hx
  | declared =>
    refine Node.mem_runs_word.trans ⟨?_, ?_⟩
    · rintro ⟨_, hp, h⟩
      obtain ⟨b, rest, rfl, hne, hb, rfl⟩ := Node.mem_runs_plus.1 h
      exact ⟨"function".toList ++ b, rest, by rw [hp, List.append_assoc], ⟨b, hne, hb, rfl⟩,
        Place.after_after p rest _ b⟩
    · rintro ⟨_, rest, hp, ⟨b, hne, hb, rfl⟩, rfl⟩
      refine ⟨b ++ rest, by rw [hp, List.append_assoc], Node.mem_runs_plus.2 ⟨b, rest, rfl, hne, hb,
        (Place.after_after p rest _ b).symm⟩⟩
  | legacy =>
    rw [template, legacyTemplate, Node.cats, Node.runs_empty, List.mem_singleton]
    constructor
    · rintro rfl
      exact ⟨[], q.rest, rfl, rfl, (Place.after_nil rfl).symm⟩
    · rintro ⟨_, rest, hp, rfl, rfl⟩
      exact Place.after_nil hp

/-- What is taken in front of the name opens a definition. -/
theorem Leads.opens {before lead : List Char} (h : f.Leads before lead) :
    f.Opens (before ++ lead) := by
  cases f with
  | assigned =>
    rcases h with ⟨rfl, rfl⟩ | ⟨x, rfl, hx⟩
    · rintro x ⟨⟩
    · rw [Opens, List.getLast?_concat]
      rintro y ⟨⟩
      exact hx
  | declared =>
    obtain ⟨b, hne, hb, rfl⟩ := h
    exact ⟨before, b, hne, hb, rfl⟩
  | legacy => trivial

theorem naming_eq (f : RoutineForm) : f.naming = f.namePieces.map Piece.node := by
  cases f <;> rfl

/-- What the parts behind the name spell. -/
theorem spells_namePieces {s : List Char} : Spells f.namePieces s ↔ f.Names s := by
  cases f with
  | assigned =>
    constructor
    · rintro ⟨b₁, _, rfl, hb₁, h⟩
      obtain ⟨_, rfl, b₂, _, rfl, hb₂, h⟩ := spells_char_cons.1 h
      obtain rfl := spells_text.1 h
      exact ⟨b₁, b₂, List.forall_mem_append.2 ⟨hb₁, hb₂⟩, rfl⟩
    · rintro ⟨b₁, b₂, hb, rfl⟩
      obtain ⟨hb₁, hb₂⟩ := List.forall_mem_append.1 hb
      exact ⟨b₁, _, rfl, hb₁, spells_char_cons.2 ⟨_, rfl, b₂, _, rfl, hb₂, spells_text.2 rfl⟩⟩
  | declared =>
    constructor
    · rintro ⟨b, _, rfl, hb, h⟩
      obtain ⟨_, rfl, rfl⟩ := spells_char_cons.1 h
      exact ⟨b, hb, rfl⟩
    · rintro ⟨b, hb, rfl⟩
      exact ⟨b, ['('], rfl, hb, spells_char_cons.2 ⟨[], rfl, rfl⟩⟩
  | legacy => exact spells_text

/-- The parts in front of the statements run over the text of a definition of the name. -/
theorem exists_of_mem_runs_front {name u : List Char} (hlast : p.last = u.getLast?)
    (h : q ∈ (Node.cats
      (f.template.beforeNodes ++ (word name ++ (f.naming ++ f.splitting)))).runs p) :
    ∃ lead head m, p.rest = lead ++ (name ++ (head ++ m.rest)) ∧ f.Leads u lead ∧ f.Names head ∧
      q ∈ (Node.cats f.splitting).runs m := by
  obtain ⟨m₁, toName, h⟩ := Node.mem_runs_cats_append.1 h
  obtain ⟨lead, s₁, hp, hlead, rfl⟩ := (mem_runs_before hlast).1 toName
  obtain ⟨s₂, hs₁, h⟩ := Node.mem_runs_word.1 h
  obtain ⟨m₂, toParameter, toGroup⟩ := Node.mem_runs_cats_append.1 h
  rw [naming_eq] at toParameter
  obtain ⟨head, s₃, hs₂, hhead, rfl⟩ := Node.mem_runs_pieces.1 toParameter
  obtain rfl : s₁ = name ++ s₂ := hs₁
  obtain rfl : s₂ = head ++ s₃ := hs₂
  exact ⟨lead, head, _, hp, hlead, spells_namePieces.1 hhead, toGroup⟩

end RoutineForm

/-! ### The routine of a name -/

/-- The texts on the two sides of an identifier do not go on with it. -/
def Delimits (before behind : List Char) : Prop :=
  (∀ x ∈ before.getLast?, partClass.has x = false) ∧ ∀ x ∈ behind.head?, partClass.has x = false

theorem head?_append_of_blanks {b : List Char} (hb : ∀ x ∈ b, isBlank x = true) {c : Char}
    (hc : partClass.has c = false) (s : List Char) :
    ∀ x ∈ (b ++ c :: s).head?, partClass.has x = false := by
  rcases b with - | ⟨y, b⟩
  · rintro x ⟨⟩
    exact hc
  · rintro x ⟨⟩
    exact part_eq_false_of_isBlank (hb y List.mem_cons_self)

namespace RoutineForm

/-- Whether a form leaves nothing of an identifier in front of the name. -/
def IsGuarded : RoutineForm → (before : List Char) → Prop
  | assigned, s => ∀ x ∈ s.getLast?, isWord x = false
  | declared, _ => True
  | legacy, s => ∀ x ∈ s.getLast?, partClass.has x = false

variable {f : RoutineForm}

/-- What follows the name does not go on with it. -/
theorem Names.head? {s : List Char} (h : f.Names s) (r : List Char) :
    ∀ x ∈ (s ++ r).head?, partClass.has x = false := by
  cases f with
  | assigned =>
    obtain ⟨b₁, b₂, hb, rfl⟩ := h
    rw [List.append_assoc, List.cons_append]
    exact head?_append_of_blanks (fun x hx ↦ hb x (List.mem_append_left _ hx)) (by decide) _
  | declared =>
    obtain ⟨b, hb, rfl⟩ := h
    rw [List.append_assoc]
    exact head?_append_of_blanks hb (by decide) _
  | legacy =>
    obtain rfl := h
    rintro x ⟨⟩
    decide

/-- **When the identifier of a definition is the whole name.** -/
theorem Opens.delimits_iff {s behind : List Char} (h : f.Opens s)
    (hbehind : ∀ x ∈ behind.head?, partClass.has x = false) :
    Delimits s behind ↔ f.IsGuarded s := by
  rw [Delimits, and_iff_left hbehind]
  cases f with
  | assigned =>
    refine forall₂_congr fun x hx ↦ ?_
    have hname : nameClass.has x = false := h x hx
    have hdollar : x ≠ '$' := by
      rintro rfl
      revert hname
      decide
    simp [partClass, CharClass.has, CharClass.has_only, hdollar]
  | declared =>
    obtain ⟨u, b, hne, hb, rfl⟩ := h
    refine iff_of_true (fun x hx ↦ ?_) trivial
    rw [← List.append_assoc, List.getLast?_append_of_ne_nil _ hne] at hx
    exact part_eq_false_of_isBlank (hb x (List.mem_of_getLast? hx))
  | legacy => exact Iff.rfl

end RoutineForm

end Unscramble

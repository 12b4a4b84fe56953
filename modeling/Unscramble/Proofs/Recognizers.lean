import Unscramble.Lookup
import Unscramble.Proofs.Pattern.Answer
import Unscramble.Proofs.Pattern.Literal
import Unscramble.Proofs.Text.Percent
import Unscramble.Proofs.Text.Spelled
import Unscramble.Proofs.Text.Split

/-!
# The built-in recognizers as patterns

What the first recognizer of each stage reads as. The one for the entry routine has no gap and is
read by evaluation. The other two have a gap for an identifier, and each is the text of a `Gapped`
template whatever the identifier is.

An identifier without `%` stands for itself, because its bytes are decoded to the same text.

## Main definitions

* `entryUsual`, `planAssigned`, `tableVar`: the first recognizers of the stages.
* `planTemplate`, `tableTemplate`: the templates of the last two.

## Main statements

* `identifierOf_of_notMem`: an identifier without `%` stands for itself.
* `read_entryUsual`: the pattern of the recognizer without a gap.
* `planAssigned_patternText`, `tableVar_patternText`: the patterns of the others are made from
  their templates.
* `Recognizer.recognize_of_gapped`, `Recognizer.exists_leftmost_of_gapped`: what such a recognizer
  captures, and from where.
-/

namespace Unscramble

open Unscramble.Text Unscramble.Pattern

/-! ### Identifiers -/

/-- **An identifier without `%` stands for itself.** -/
theorem identifierOf_of_notMem {name : List Char} (h : '%' ∉ name) : identifierOf name = name := by
  rw [identifierOf, Percent.decode_of_notMem (Percent.mark_notMem_encode h), Utf8.decode?_encode]
  rfl

/-! ### Recognizers and their patterns -/

/-- A template with a gap becomes the text of the pattern. -/
theorem Recognizer.patternText_of_gapped {r : Recognizer} {t : Gapped}
    (h : r.template.toList = t.before ++ (placeholder ++ t.behind)) (hbefore : '\x7b' ∉ t.before)
    (hbehind : '\x7b' ∉ t.behind) (name : List Char) :
    r.patternText (some name) = t.text (identifierOf name) := by
  rw [patternText, h, Gapped.text]
  exact replaceAll_append_append hbefore hbehind _

theorem Recognizer.recognize_of_read {r : Recognizer} {name : Option (List Char)} {p : Pattern}
    (h : Pattern.read (r.patternText name) = .ok p) (text : List Char) :
    r.recognize text name = .ok ((p.find? text).bind (chosen p)) := by
  rw [recognize, h]
  rfl

theorem Recognizer.recognize_of_read_eq_error {r : Recognizer} {name : Option (List Char)}
    {e : PatternError} (h : Pattern.read (r.patternText name) = .error e) (text : List Char) :
    r.recognize text name = .error e := by
  rw [recognize, h]
  rfl

/-- The only group is the one that is named for the value. -/
theorem Recognizer.chosen_value (node : Node) (q : Place) :
    chosen ⟨node, [(valueGroup, 1)]⟩ q = q.captured? 1 := by
  show (q.captured? 1).or (q.captured? 1) = _
  cases q.captured? 1 <;> rfl

/-- What a recognizer with a gap captures, if its pattern is not too large. -/
theorem Recognizer.recognize_of_gapped {r : Recognizer} {t : Gapped} {name : List Char}
    (hr : r.patternText (some name) = t.text (identifierOf name)) (hname : '%' ∉ name)
    (hnames : t.names = [(valueGroup, 1)]) (text : List Char) :
    r.recognize text (some name) =
      if sizeLimit < t.size + 32 * Utf8.size name then .error .tooLarge
      else .ok ((Pattern.find? ⟨t.node name, t.names⟩ text).bind (·.captured? 1)) := by
  have hread : Pattern.read (r.patternText (some name)) = Pattern.read (t.text name) := by
    rw [hr, identifierOf_of_notMem hname]
  rw [t.read_text name] at hread
  split_ifs at hread ⊢
  · exact recognize_of_read_eq_error hread text
  · rw [recognize_of_read hread, hnames]
    exact congrArg (fun f ↦ Except.ok (Option.bind _ f)) (funext (chosen_value _))

/-- What a recognizer with a gap captures is captured by the best run from the leftmost place in the
text that has one. -/
theorem Recognizer.exists_leftmost_of_gapped {r : Recognizer} {t : Gapped}
    {name text w : List Char} (hr : r.patternText (some name) = t.text (identifierOf name))
    (hname : '%' ∉ name) (hnames : t.names = [(valueGroup, 1)])
    (h : r.recognize text (some name) = .ok (some w)) :
    ∃ u v q, text = u ++ v ∧
      (t.node name).first ⟨u.getLast?.or none, v, 0 + u.length, [], []⟩ some = some q ∧
      q.captured? 1 = some w ∧
      ∀ u' v', text = u' ++ v' → u'.length < u.length →
        ¬ ∃ q', q' ∈ (t.node name).runs ⟨u'.getLast?.or none, v', 0 + u'.length, [], []⟩ := by
  rw [recognize_of_gapped hr hname hnames] at h
  split_ifs at h
  obtain ⟨q, hfind, hq⟩ := Option.bind_eq_some_iff.1 (Except.ok.inj h)
  obtain ⟨u, v, htext, hfirst, hleft⟩ := Node.exists_leftmost_of_search hfind
  exact ⟨u, v, q, htext, hfirst, hq, hleft⟩

/-- What a recognizer with a gap captures is captured by the best run from a place in the text. -/
theorem Recognizer.exists_first_of_gapped {r : Recognizer} {t : Gapped} {name text w : List Char}
    (hr : r.patternText (some name) = t.text (identifierOf name)) (hname : '%' ∉ name)
    (hnames : t.names = [(valueGroup, 1)]) (h : r.recognize text (some name) = .ok (some w)) :
    ∃ u v q, text = u ++ v ∧
      (t.node name).first ⟨u.getLast?.or none, v, 0 + u.length, [], []⟩ some = some q ∧
      q.captured? 1 = some w := by
  obtain ⟨u, v, q, htext, hfirst, hq, -⟩ := exists_leftmost_of_gapped hr hname hnames h
  exact ⟨u, v, q, htext, hfirst, hq⟩

/-! ### Parts of the templates -/

namespace Pattern.Expr

/-- Any white space. -/
def blanks : Expr :=
  .loop 0 none true (.cls (.letter false .blank))

/-- At least one word character. -/
def words : Expr :=
  .loop 1 none true (.cls (.letter false .word))

/-- The characters of a word, one part each. -/
def literal (w : String) : List Expr :=
  w.toList.map .char

end Pattern.Expr

open Pattern.Expr (blanks words literal)
open Pattern.Node (word plus plusLazy)

/-- The characters of an entry routine's name. -/
def nameClass : CharClass :=
  .union (.union (.union (.range 'a' 'z') (.range 'A' 'Z')) (.range '0' '9')) (.only '$')

/-! ### The entry routine -/

/-- The first recognizer of the entry routine: it is called on what is encoded. -/
def entryUsual : Recognizer :=
  ⟨"set-encode-cs",
    Template.usualGuard ++ Template.setTo ++ Template.encoding ++ Template.called⟩

/-- What the entry recognizer looks for in front of the name: a condition, and a parameter that is
set to something encoded. -/
def entrySetting : List Node :=
  [.one (.union (.only 'c') (.only 's')), Node.blanks] ++ word "&&".toList ++
    [Node.blanks, .one (.union (.union (.only 'a') (.only 'd')) (.only 'f'))] ++
    word ".set(".toList ++ [plus (.not (.only ',')), Node.blanks, .char ',', Node.blanks] ++
    word "encodeURIComponent".toList ++ [Node.blanks, .char '(', Node.blanks]

/-- The pattern of the first entry recognizer. -/
def entryPattern : Pattern :=
  ⟨Node.cats (.look (.edge isWord) :: (entrySetting ++ [.group 1 (plus nameClass), .char '('])),
    [(Recognizer.valueGroup, 1)]⟩

/-- The text of the first entry recognizer. -/
def entryText : Spelled entryUsual.template :=
  .append (.append (.append (.of rfl) (.of rfl)) (.of rfl)) (.of rfl)

set_option maxRecDepth 4000 in
theorem read_entryUsual : Pattern.read (entryUsual.patternText none) = .ok entryPattern := by
  rw [Recognizer.patternText, entryText.toList_eq]
  rfl

/-! ### The plan text -/

/-- The first recognizer of the plan text: the routine is assigned to its name. -/
def planAssigned : Recognizer :=
  ⟨"assign-split-join",
    r"(?:^|[^a-zA-Z0-9$]){name}\s*=\s*function\(\s*\w+\s*\)" ++ Template.working⟩

/-- The parts from the name of the routine to its statements. -/
def planOpening : List Node :=
  Node.blanks :: .char '=' :: Node.blanks :: (word "function(".toList ++
    [Node.blanks, plus .word, Node.blanks, .char ')', Node.blanks, .char '\x7b', Node.blanks,
      plus .word, Node.blanks, .char '=', Node.blanks, plus .word] ++ word ".split(".toList ++
    [Node.blanks, .char '"', .char '"', Node.blanks, .char ')', Node.blanks, .char ';'])

/-- The statements of the routine, as few as possible. -/
def planStatements : Node :=
  .group 1 (.many false (.not (.only '\n')))

/-- The parts behind the statements of the routine. -/
def planClosing : List Node :=
  .char ';' :: Node.blanks :: (word "return".toList ++ plus .blank :: plus .word ::
    (word ".join(".toList ++
      [Node.blanks, .char '"', .char '"', Node.blanks, .char ')', Node.blanks, .char '\x7d']))

/-- The text of the plan recognizer in front of the name. -/
def planBefore : Spelled r"(?:^|[^a-zA-Z0-9$])" :=
  .of rfl

/-- The text of the plan recognizer behind the name. -/
def planBehind : Spelled (r"\s*=\s*function\(\s*\w+\s*\)" ++ Template.working) :=
  .append (.of rfl) (.append (.of rfl) (.of rfl))

set_option maxRecDepth 4000 in
/-- The template of the first recognizer of the plan text. -/
def planTemplate : Gapped where
  before := planBefore.chars
  behind := planBehind.chars
  beforeParts :=
    [.group (.switched ⟨[], []⟩) (.alt (.assertion .caret) (.cls (.bracket true
      (.union (.union (.union (.union .empty (.range 'a' 'z')) (.range 'A' 'Z')) (.range '0' '9'))
        (.char '$')))))]
  behindParts :=
    [blanks, .char '=', blanks] ++ literal "function(" ++
      [blanks, words, blanks, .char ')', blanks, .byte 0x7B, blanks, words, blanks, .char '=',
        blanks, words] ++ literal ".split(" ++
      [blanks, .char '"', .char '"', blanks, .char ')', blanks, .char ';',
        .group (.capture 1) (.loop 0 none false .dot), .char ';', blanks] ++ literal "return" ++
      [.loop 1 none true (.cls (.letter false .blank)), words] ++ literal ".join(" ++
      [blanks, .char '"', .char '"', blanks, .char ')', blanks, .byte 0x7D]
  beforeNodes := [.alt (.look .start) (.one (.not nameClass))]
  behindNodes := planOpening ++ planStatements :: planClosing
  groups := 1
  names := [(Recognizer.valueGroup, 1)]
  read_before := ⟨5, by decide, fun n rest _ ↦ rfl⟩
  read_behind := ⟨100, by decide, fun n parts ↦ rfl⟩
  head?_behind := by decide
  depth_lt := by decide
  becomes_before := .cons ⟨rfl, nofun⟩ .nil
  becomes_behind := ⟨rfl, nofun⟩
  behindParts_ne_nil := nofun
  behindNodes_ne_nil := nofun

/-- The whole text of the plan recognizer, cut at the gap. -/
def planText : Spelled planAssigned.template :=
  .append (.of (l := planBefore.chars ++ (placeholder ++ planBehind.chars.take 28)) rfl)
    (.append (.of rfl) (.of rfl))

theorem planAssigned_patternText (name : List Char) :
    planAssigned.patternText (some name) = planTemplate.text (identifierOf name) :=
  Recognizer.patternText_of_gapped planText.toList_eq (by decide) (by decide) name

/-! ### The table text -/

/-- The first recognizer of the table text: the object is declared with `var`. -/
def tableVar : Recognizer :=
  ⟨"var-object", "var {name}=" ++ Template.braced ++ ";"⟩

/-- The characters of a table text. -/
def bracedClass : CharClass :=
  .union (.union (.union (.union (.union (.union (.union (.union (.union (.union (.union (.union
    (.union (.union .word (.only '$')) (.only ',')) (.only ';')) (.only '%')) (.only '.'))
    (.only '(')) (.only ')')) (.only '[')) (.only ']')) (.only ':')) (.only '='))
    (.only '\x7b')) (.only '\x7d')) .blank

/-- The text of the table recognizer in front of the name. -/
def tableBefore : Spelled "var " :=
  .of rfl

/-- The text of the table recognizer behind the name. -/
def tableBehind : Spelled ("=" ++ Template.braced ++ ";") :=
  .append (.append (.of rfl) (.of rfl)) (.of rfl)

set_option maxRecDepth 4000 in
/-- The template of the first recognizer of the table text. -/
def tableTemplate : Gapped where
  before := tableBefore.chars
  behind := tableBehind.chars
  beforeParts := literal "var "
  behindParts :=
    [.char '=', .byte 0x7B,
      .group (.capture 1) (.loop 1 none false (.cls (.bracket false
        (.union (.union (.union (.union (.union (.union (.union (.union (.union (.union (.union
          (.union (.union (.union (.union .empty (.letter false .word)) (.char '$')) (.char ','))
          (.char ';')) (.char '%')) (.char '.')) (.char '(')) (.char ')')) (.char '['))
          (.char ']')) (.char ':')) (.char '=')) (.char '\x7b')) (.char '\x7d'))
          (.letter false .blank))))),
      .byte 0x7D, .char ';']
  beforeNodes := word "var ".toList
  behindNodes :=
    [.char '=', .char '\x7b', .group 1 (plusLazy bracedClass), .char '\x7d', .char ';']
  groups := 1
  names := [(Recognizer.valueGroup, 1)]
  read_before := ⟨4, by decide, fun n rest _ ↦ rfl⟩
  read_behind := ⟨10, by decide, fun n parts ↦ rfl⟩
  head?_behind := by decide
  depth_lt := by decide
  becomes_before := Expr.forall₂_becomes_word _
  becomes_behind := ⟨rfl, nofun⟩
  behindParts_ne_nil := nofun
  behindNodes_ne_nil := nofun

/-- The whole text of the table recognizer, cut at the gap. -/
def tableText : Spelled tableVar.template :=
  .append (.append (.of (l := tableBefore.chars ++ (placeholder ++ ['='])) rfl) (.of rfl)) (.of rfl)

theorem tableVar_patternText (name : List Char) :
    tableVar.patternText (some name) = tableTemplate.text (identifierOf name) :=
  Recognizer.patternText_of_gapped tableText.toList_eq (by decide) (by decide) name

end Unscramble

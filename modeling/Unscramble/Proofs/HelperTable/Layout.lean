import Unscramble.Proofs.HelperTable.Outcome
import Unscramble.Proofs.Plan.Written

/-!
# How definitions may be laid out

An object literal is a row of definitions with commas between them, and there may be white space on
both sides of a comma. White space behind a comma does no harm, because members are trimmed. White
space in front of a comma keeps the cut from being made, for members are cut where a comma stands
*directly* behind a brace. The definition behind such a comma becomes part of the body before it,
and its name is lost, whatever its own body does.

So the helpers that a table lacks can be told from the layout: they are those behind a comma with
white space in front of it. If there is no such comma, a table comes out exactly if every body has a
known shape, and it has every helper.

## Main definitions

* `WrittenHelper`: a definition of a helper.
* `WrittenTable`: definitions of different names with commas and white space between them.
* `definitionsFrom`: the names and bodies that a row of definitions is read as.

## Main statements

* `map_memberParts?_members`: the names and bodies of the members of a row of definitions.
* `WrittenTable.read_layout`: which helpers a table has, and when there is one.
-/

namespace Unscramble

open Unscramble.Text

/-! ### Definitions -/

/-- A character that the name of a helper can have. Only those are left out which end a name or are
trimmed off, so there are all characters of identifiers. -/
def isHelperChar (c : Char) : Bool :=
  !isBlank c && c != ':' && c != '\x7d'

/-- A definition of a helper, `name:function(params){body}`, without a closing brace within. -/
structure WrittenHelper where
  name : WrittenName isHelperChar
  params : List Char
  body : List Char
  notMem_params : '\x7d' ∉ params
  notMem_body : '\x7d' ∉ body

namespace WrittenHelper

variable (h : WrittenHelper)

/-- What stands between the name of a helper and its parameters. -/
def functionText : Spelled "function(" :=
  .of rfl

/-- The function without the brace at its end. -/
def opened : List Char :=
  functionText.chars ++ (h.params ++ ')' :: '\x7b' :: h.body)

/-- The function that the helper is defined as. -/
def function : List Char :=
  h.opened ++ ['\x7d']

/-- The written form of the definition. -/
def text : List Char :=
  h.name.chars ++ ':' :: h.function

/-- The name as a key of tables. -/
def key : String :=
  String.ofList h.name.chars

theorem notMem_name : '\x7d' ∉ h.name.chars ∧ ':' ∉ h.name.chars := by
  constructor <;>
  · intro hmem
    have := h.name.all_has _ hmem
    revert this
    decide

theorem isBlank_eq_false_of_mem_name : ∀ c ∈ h.name.chars, isBlank c = false := by
  intro c hc
  have := h.name.all_has c hc
  simp only [isHelperChar, Bool.and_eq_true, Bool.not_eq_true'] at this
  exact this.1.1

theorem notMem_opened : '\x7d' ∉ h.opened := by
  have hfunction : '\x7d' ∉ functionText.chars := by decide
  simp [opened, hfunction, h.notMem_params, h.notMem_body]

end WrittenHelper

/-- A definition behind another one, with the comma between them and the white space around it. -/
structure FurtherHelper where
  before : Blanks
  after : Blanks
  helper : WrittenHelper

/-- The comma and the definition as they are written. -/
def FurtherHelper.text (f : FurtherHelper) : List Char :=
  f.before.chars ++ ',' :: (f.after.chars ++ f.helper.text)

theorem FurtherHelper.text_eq (f : FurtherHelper) :
    f.text = f.before.chars ++ (',' :: (f.after.chars ++ (f.helper.name.chars ++
      ':' :: f.helper.opened)) ++ ['\x7d']) := by
  simp [text, WrittenHelper.text, WrittenHelper.function]

/-- Whether the comma stands directly behind the definition before it. -/
def FurtherHelper.isTight (f : FurtherHelper) : Bool :=
  f.before.chars.isEmpty

/-! ### What a row of definitions is read as -/

/-- The names and bodies that definitions are read as behind a name and what its body has so far. A
definition behind a comma that is not tight goes into the body before it. -/
def definitionsFrom (name : String) (body : List Char) :
    List FurtherHelper → List (String × List Char)
  | [] => [(name, body)]
  | f :: fs =>
    if f.isTight then (name, body) :: definitionsFrom f.helper.key f.helper.function fs
    else definitionsFrom name (body ++ f.text) fs

/-- The names that remain are those behind tight commas. -/
theorem map_fst_definitionsFrom (name : String) (body : List Char) (fs : List FurtherHelper) :
    (definitionsFrom name body fs).map (·.1) =
      name :: (fs.filter (·.isTight)).map (·.helper.key) := by
  induction fs generalizing name body with
  | nil => rfl
  | cons f fs ih =>
    rw [definitionsFrom]
    by_cases hf : f.isTight = true
    · rw [if_pos hf, List.map_cons, ih, List.filter_cons_of_pos hf, List.map_cons]
    · rw [if_neg hf, ih, List.filter_cons_of_neg hf]

/-- If all commas are tight, every definition is read by itself. -/
theorem definitionsFrom_of_isTight {fs : List FurtherHelper} (h : ∀ f ∈ fs, f.isTight = true)
    (name : String) (body : List Char) :
    definitionsFrom name body fs =
      (name, body) :: fs.map fun f ↦ (f.helper.key, f.helper.function) := by
  induction fs generalizing name body with
  | nil => rfl
  | cons f fs ih =>
    rw [List.forall_mem_cons] at h
    rw [definitionsFrom, if_pos h.1, ih h.2, List.map_cons]

/-- A text that a body can have got to: it begins and ends like a function, and no comma stands
directly behind a brace. -/
structure IsBody (body : List Char) : Prop where
  head : body.head? = some 'f'
  getLast : body.getLast? = some '\x7d'
  follows : Follows '\x7d' (· != ',') body

theorem IsBody.of_function (h : WrittenHelper) : IsBody h.function where
  head := rfl
  getLast := List.getLast?_concat
  follows := follows_brace h.notMem_opened

/-- A definition behind a comma that is not tight can be added to a body. -/
theorem IsBody.append {body : List Char} (hbody : IsBody body) {f : FurtherHelper}
    (hf : ¬ f.isTight = true) : IsBody (body ++ f.text) where
  head := by
    rw [List.head?_append, hbody.head]
    rfl
  getLast := by
    rw [f.text_eq, ← List.append_assoc, ← List.append_assoc, List.getLast?_concat]
  follows := by
    have hblanks (b : Blanks) : '\x7d' ∉ b.chars := fun h ↦
      absurd (b.isBlank_chars _ h) (by decide)
    have hopened : '\x7d' ∉ f.before.chars ++ ',' :: (f.after.chars ++ (f.helper.name.chars ++
        ':' :: f.helper.opened)) := by
      simp [hblanks, f.helper.notMem_name, f.helper.notMem_opened]
    rw [f.text_eq]
    refine hbody.follows.append ?_ (.inr fun d hd ↦ ?_)
    · rw [← List.append_assoc]
      exact follows_brace hopened
    · -- behind the brace at the end of the body comes white space
      have hne : f.before.chars ≠ [] := mt List.isEmpty_iff.2 hf
      have hblank := f.before.isBlank_chars d (Pattern.Node.mem_of_mem_head?_append hne hd)
      rw [bne_iff_ne]
      rintro rfl
      exact absurd hblank (by decide)

/-- The name and the body of a member, behind any white space. -/
theorem memberParts?_text {a : List Char} (ha : a.all isBlank = true) (h : WrittenHelper)
    {body : List Char} (hbody : IsBody body) :
    memberParts? (a ++ (h.name.chars ++ ':' :: body)) = some (h.key, body) := by
  have hlast : ∀ c ∈ body.getLast?, isBlank c = false := by
    rw [hbody.getLast]
    rintro c ⟨⟩
    decide
  have hbodytrim : trim body = body := by
    refine trim_eq_self ?_ hlast
    rw [hbody.head]
    rintro c ⟨⟩
    decide
  have hname : trim h.name.chars = h.name.chars := by
    refine trim_eq_self (fun c hc ↦ ?_) fun c hc ↦ ?_
    · exact h.isBlank_eq_false_of_mem_name c (List.mem_of_mem_head? hc)
    · exact h.isBlank_eq_false_of_mem_name c (List.mem_of_mem_getLast? hc)
  have htrim : trim (a ++ (h.name.chars ++ ':' :: body)) = h.name.chars ++ ':' :: body := by
    have hcut := trim_append_of_all_isBlank ha (b := []) rfl (h.name.chars ++ ':' :: body)
    rw [List.append_nil] at hcut
    rw [hcut]
    refine trim_eq_self (fun c hc ↦ ?_) fun c hc ↦ ?_
    · exact h.isBlank_eq_false_of_mem_name c (Pattern.Node.mem_of_mem_head?_append h.name.ne_nil hc)
    · have hne : body ≠ [] := by
        rintro rfl
        cases hbody.head
      rw [List.getLast?_append_of_ne_nil _ (List.cons_ne_nil _ _),
        ← List.singleton_append, List.getLast?_append_of_ne_nil _ hne] at hc
      exact hlast c hc
  rw [memberParts?, htrim, splitFirst?_append_cons h.notMem_name.2]
  show some (String.ofList (trim h.name.chars), trim body) = _
  rw [hname, hbodytrim]
  rfl

/-- Nothing ends a member in front of its body. -/
theorem follows_member {a : List Char} (ha : a.all isBlank = true) (h : WrittenHelper)
    {body : List Char} (hbody : IsBody body) :
    Follows '\x7d' (· != ',') (a ++ (h.name.chars ++ ':' :: body)) := by
  have hblank : '\x7d' ∉ a := fun hmem ↦ absurd (List.all_eq_true.1 ha _ hmem) (by decide)
  have hfront : '\x7d' ∉ a ++ (h.name.chars ++ [':']) := by
    simp [hblank, h.notMem_name]
  have hsplit : a ++ (h.name.chars ++ ':' :: body) = a ++ (h.name.chars ++ [':']) ++ body := by
    simp
  rw [hsplit]
  exact (follows_of_notMem hfront).append hbody.follows
    (.inl fun hlast ↦ hfront (List.mem_of_mem_getLast? hlast))

/-- **The members of a row of definitions** are the names and bodies that it is read as. -/
theorem map_memberParts?_members (fs : List FurtherHelper) {a : List Char}
    (ha : a.all isBlank = true) (h : WrittenHelper) {body : List Char} (hbody : IsBody body) :
    (members (a ++ (h.name.chars ++ ':' :: body) ++ fs.flatMap FurtherHelper.text)).map
      memberParts? = (definitionsFrom h.key body fs).map some := by
  induction fs generalizing a h body with
  | nil =>
    rw [List.flatMap_nil, List.append_nil, members_of_follows (follows_member ha h hbody)]
    exact congrArg (fun p ↦ [p]) (memberParts?_text ha h hbody)
  | cons f fs ih =>
    rw [definitionsFrom, List.flatMap_cons]
    by_cases hf : f.isTight = true
    · -- the member ends here
      have hbefore : f.before.chars = [] := List.isEmpty_iff.1 hf
      obtain ⟨opened, rfl⟩ := List.getLast?_eq_some_iff.1 hbody.getLast
      have hcut : a ++ (h.name.chars ++ ':' :: (opened ++ ['\x7d'])) ++
          (f.text ++ fs.flatMap FurtherHelper.text) =
          (a ++ (h.name.chars ++ ':' :: opened)) ++ '\x7d' :: ',' :: (f.after.chars ++
            (f.helper.name.chars ++ ':' :: f.helper.function) ++
              fs.flatMap FurtherHelper.text) := by
        simp [FurtherHelper.text, WrittenHelper.text, hbefore]
      have hmember : (a ++ (h.name.chars ++ ':' :: opened)) ++ ['\x7d'] =
          a ++ (h.name.chars ++ ':' :: (opened ++ ['\x7d'])) := by
        simp
      have hafter : f.after.chars.all isBlank = true := List.all_eq_true.2 f.after.isBlank_chars
      rw [if_pos hf, hcut, members_append_comma, hmember,
        members_of_follows (follows_member ha h hbody), List.map_append,
        ih hafter f.helper (.of_function f.helper), List.map_cons, List.map_nil,
        memberParts?_text ha h hbody]
      rfl
    · -- the member goes on
      have hgo : a ++ (h.name.chars ++ ':' :: body) ++ (f.text ++ fs.flatMap FurtherHelper.text) =
          a ++ (h.name.chars ++ ':' :: (body ++ f.text)) ++ fs.flatMap FurtherHelper.text := by
        simp
      rw [if_neg hf, hgo, ih ha h (hbody.append hf)]

/-! ### Tables -/

/-- Definitions of helpers of different names, with commas between them. -/
structure WrittenTable where
  first : WrittenHelper
  further : List FurtherHelper
  nodup_keys : (first.key :: further.map (·.helper.key)).Nodup

namespace WrittenTable

variable (w : WrittenTable)

/-- The helpers that are defined. -/
def helpers : List WrittenHelper :=
  w.first :: w.further.map (·.helper)

theorem nodup_map_key : (w.helpers.map WrittenHelper.key).Nodup := by
  rw [helpers, List.map_cons, List.map_map]
  exact w.nodup_keys

/-- The written form of the table. -/
def text : List Char :=
  w.first.text ++ w.further.flatMap FurtherHelper.text

/-- The names and bodies that the table is read as. -/
def definitions : List (String × List Char) :=
  definitionsFrom w.first.key w.first.function w.further

/-- **A table comes out** exactly if the bodies that it is read as have known shapes. -/
theorem outcome_read_text_iff {t : HelperTable} :
    (HelperTable.read w.text).outcome = .ok t ↔
      ∃ helpers, List.Forall₂ IsHelper w.definitions helpers ∧ t = .ofList helpers := by
  have hmembers : (members w.text).map memberParts? = w.definitions.map some :=
    map_memberParts?_members w.further (a := []) rfl w.first (.of_function w.first)
  simp only [HelperTable.outcome_read_eq_ok_iff, defines_iff hmembers]

/-- The names that a table has are those behind tight commas. -/
theorem isSome_get?_iff {t : HelperTable} (ht : (HelperTable.read w.text).outcome = .ok t)
    {name : String} : (t.get? name).isSome = true ↔
      name = w.first.key ∨ ∃ f ∈ w.further, f.isTight = true ∧ f.helper.key = name := by
  obtain ⟨helpers, hdefs, rfl⟩ := w.outcome_read_text_iff.1 ht
  show ((helpers.foldl (fun t e ↦ t.insert e.1 e.2) HelperTable.empty).get? name).isSome = true ↔ _
  rw [HelperTable.isSome_get?_foldl_insert, ← map_fst_of_forall₂_isHelper hdefs, definitions,
    map_fst_definitionsFrom]
  simp [and_assoc]

/-- A definition is found if its comma is tight, and only then. -/
theorem isSome_get?_key_iff {t : HelperTable} (ht : (HelperTable.read w.text).outcome = .ok t)
    {f : FurtherHelper} (hf : f ∈ w.further) :
    (t.get? f.helper.key).isSome = true ↔ f.isTight = true := by
  have hnodup := List.nodup_cons.1 w.nodup_keys
  rw [w.isSome_get?_iff ht]
  constructor
  · rintro (hfirst | ⟨g, hg, htight, hkey⟩)
    · exact absurd (List.mem_map.2 ⟨f, hf, hfirst⟩) hnodup.1
    · rwa [← List.inj_on_of_nodup_map hnodup.2 hg hf hkey]
  · intro htight
    exact .inr ⟨f, hf, htight, rfl⟩

/-- Definitions behind tight commas are read as they are. -/
theorem definitions_of_isTight (h : ∀ f ∈ w.further, f.isTight = true) :
    w.definitions = w.helpers.map fun h ↦ (h.key, h.function) := by
  rw [definitions, definitionsFrom_of_isTight h, helpers, List.map_cons, List.map_map]
  rfl

/-- If all commas are tight, a table has every helper with the family of its body. -/
theorem get?_key_of_isTight (htight : ∀ f ∈ w.further, f.isTight = true) {t : HelperTable}
    (ht : (HelperTable.read w.text).outcome = .ok t) :
    ∀ h ∈ w.helpers, ∃ family, classify h.function = .ok family ∧
      t.get? h.key = some family := by
  obtain ⟨helpers, hdefs, rfl⟩ := w.outcome_read_text_iff.1 ht
  rw [w.definitions_of_isTight htight] at hdefs
  have hnodup : (helpers.map (·.1)).Nodup := by
    rw [← map_fst_of_forall₂_isHelper hdefs, List.map_map]
    exact w.nodup_map_key
  intro h hh
  obtain ⟨family, hfamily, hmem⟩ := exists_mem_of_forall₂_isHelper hdefs _ (List.mem_map_of_mem hh)
  exact ⟨family, hfamily, (HelperTable.get?_ofList hnodup).2 hmem⟩

/-- **Helpers are lost to the layout only.** If there is a table, then it lacks exactly the helpers
behind a comma with white space in front of it. If there is no such comma, there is a table exactly
if all bodies have known shapes, and then it has each helper with the family of its body. -/
theorem read_layout :
    (∀ t, (HelperTable.read w.text).outcome = .ok t →
      (t.get? w.first.key).isSome = true ∧
        ∀ f ∈ w.further, ((t.get? f.helper.key).isSome = true ↔ f.isTight = true)) ∧
    ((∀ f ∈ w.further, f.isTight = true) →
      ((∃ t, (HelperTable.read w.text).outcome = .ok t) ↔
        ∀ h ∈ w.helpers, ∃ family, classify h.function = .ok family) ∧
      ∀ t, (HelperTable.read w.text).outcome = .ok t →
        ∀ h ∈ w.helpers, ∃ family, classify h.function = .ok family ∧
          t.get? h.key = some family) := by
  refine ⟨fun t ht ↦ ⟨(w.isSome_get?_iff ht).2 (.inl rfl), fun f hf ↦ ?_⟩, fun htight ↦ ?_⟩
  · exact w.isSome_get?_key_iff ht hf
  · refine ⟨⟨fun ⟨t, ht⟩ h hh ↦ ?_, fun hknown ↦ ?_⟩, fun t ht ↦ w.get?_key_of_isTight htight ht⟩
    · obtain ⟨family, hfamily, -⟩ := w.get?_key_of_isTight htight ht h hh
      exact ⟨family, hfamily⟩
    · have hdefinitions : ∀ d ∈ w.definitions, ∃ family, classify d.2 = .ok family := by
        rwa [w.definitions_of_isTight htight, List.forall_mem_map]
      obtain ⟨helpers, hdefs⟩ := exists_forall₂_isHelper hdefinitions
      exact ⟨_, w.outcome_read_text_iff.2 ⟨helpers, hdefs, rfl⟩⟩

end WrittenTable

/-- A helper of a known shape is a table by itself. -/
theorem WrittenHelper.outcome_read_single (h : WrittenHelper) {family : Family}
    (hshape : classify h.function = .ok family) :
    (HelperTable.read h.text).outcome = .ok (.ofList [(h.key, family)]) := by
  have htext : h.text = (⟨h, [], List.nodup_singleton _⟩ : WrittenTable).text := by
    simp [WrittenTable.text]
  rw [htext, WrittenTable.outcome_read_text_iff]
  exact ⟨_, .cons ⟨rfl, hshape⟩ .nil, rfl⟩

/-! ### A lost helper -/

/-- A helper that reverses. -/
def reversingHelper : WrittenHelper where
  name := ⟨['w', 'R'], List.cons_ne_nil _ _, forall_mem_of_all rfl⟩
  params := ['a']
  body := ['a', '.', 'r', 'e', 'v', 'e', 'r', 's', 'e', '(', ')']
  notMem_params := by decide
  notMem_body := by decide

/-- A helper of no known shape. -/
def pushingHelper : WrittenHelper where
  name := ⟨['P', 'u'], List.cons_ne_nil _ _, forall_mem_of_all rfl⟩
  params := ['a', ',', 'b']
  body := ['a', '.', 'p', 'u', 's', 'h', '(', 'b', ')']
  notMem_params := by decide
  notMem_body := by decide

/-- The two helpers, with a space in front of the comma. -/
def spacedTable : WrittenTable where
  first := reversingHelper
  further := [⟨⟨[' '], forall_mem_of_all rfl⟩, ⟨[], by simp⟩, pushingHelper⟩]
  nodup_keys := by decide

/-- The written form of that table. -/
def spacedText : Spelled "wR:function(a){a.reverse()} ,Pu:function(a,b){a.push(b)}" :=
  .of rfl

/-- **The space hides the helper of no known shape**: there is a table, and it lacks that helper. -/
theorem read_spacedTable :
    ∃ t, (HelperTable.read
        "wR:function(a){a.reverse()} ,Pu:function(a,b){a.push(b)}".toList).outcome = .ok t ∧
      (t.get? reversingHelper.key).isSome = true ∧ (t.get? pushingHelper.key).isSome = false ∧
      ∀ family, classify pushingHelper.function ≠ .ok family := by
  have hshape : classify (reversingHelper.function ++ (' ' :: ',' :: pushingHelper.text)) =
      .ok .reverse := by
    rw [classify_eq]
    rfl
  have hpush : classify pushingHelper.function =
      .error (.unknownShape (String.ofList pushingHelper.function)) := by
    rw [classify_eq]
    rfl
  have hout : (HelperTable.read spacedTable.text).outcome =
      .ok (.ofList [(reversingHelper.key, .reverse)]) :=
    spacedTable.outcome_read_text_iff.2
      ⟨[(reversingHelper.key, .reverse)], .cons ⟨rfl, hshape⟩ .nil, rfl⟩
  obtain ⟨hfirst, hfurther⟩ := spacedTable.read_layout.1 _ hout
  have hlost := (hfurther _ List.mem_cons_self).not.2 (by decide)
  refine ⟨_, ?_, hfirst, Bool.eq_false_iff.2 hlost, fun family h ↦ ?_⟩
  · rw [spacedText.toList_eq]
    exact hout
  · cases hpush.symm.trans h

end Unscramble

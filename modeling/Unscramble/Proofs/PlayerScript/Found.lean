import Unscramble.Proofs.PlayerScript
import Unscramble.Proofs.Recognizers
import Unscramble.Proofs.Text.Follows

/-!
# Where the parts of a player script are found

In a player script the first recognizer of each stage captures what it is meant to capture. Three
things have to be known for that: no match begins earlier in the script, the match that begins at
the right place goes on to its end, and a lazy part does not end too early. Names cannot disturb any
of them, although they may be equal to each other or to words like `return`, because what keeps a
match from beginning or ending lies in the text around them.

* The entry recognizer needs an `&`, and there is none before the one that it should find.
* The plan recognizer needs a function that is assigned to the name, and in the declaration of the
  object nothing of that kind stands behind an equality sign. The statements end at the first
  semicolon behind which `return` and white space stand, and there is no white space before.
* The table recognizer matches from the beginning. The members end at the first brace behind which a
  semicolon stands, and the braces between them have commas behind them.

## Main definitions

* `PlayerScript.lead`: the script up to the place where the routine is called.
* `PlayerScript.planNode`, `PlayerScript.tableNode`: the patterns with the names of the script.

## Main statements

* `PlayerScript.recognize_entryUsual`: the entry routine is found.
* `PlayerScript.find?_planNode`: the statements of the routine are found.
* `PlayerScript.find?_tableNode`: the members of the object are found.
-/

namespace Unscramble

open Unscramble.Text Unscramble.Pattern
open Pattern.Node (walk word plus plusLazy)

namespace PlayerScript

variable (s : PlayerScript)

/-! ### The entry routine -/

/-- The text in front of the condition under which the routine is called. -/
def lead : List Char :=
  s.declaration ++ '\n' :: (s.routine ++ '\n' :: callerText.chars)

theorem text_eq_lead : s.text =
    s.lead ++ (settingText.chars ++ (s.entry.chars ++ calledText.chars)) := by
  simp [text, lead, caller]

theorem ne_ampersand_of_mem_lead : ∀ x ∈ s.lead, (x != '&') = true := by
  have hplain : ∀ x, isPlain x = true → (x != '&') = true :=
    fun x hx ↦ bne_iff_ne.2 (ne_of_isPlain hx rfl)
  have hname (w : WrittenName isPlain) : ∀ x ∈ w.chars, (x != '&') = true :=
    fun x hx ↦ hplain x (w.all_has x hx)
  have hobject := hname s.object
  have hentry := hname s.entry.toPlain
  have hlines := s.forall_mem_memberLines hplain (forall_mem_of_all rfl) fun b ↦ by
    cases b <;> exact forall_mem_of_all rfl
  have hrow := s.forall_mem_statementRow hplain (forall_mem_of_all rfl)
  have hdeclaration : ∀ x ∈ s.declaration, (x != '&') = true := by
    simp only [declaration, List.forall_mem_append]
    exact ⟨⟨⟨⟨forall_mem_of_all rfl, hobject⟩, forall_mem_of_all rfl⟩, hlines⟩,
      forall_mem_of_all rfl⟩
  have hroutine : ∀ x ∈ s.routine, (x != '&') = true := by
    simp only [routine, List.forall_mem_append]
    exact ⟨⟨⟨hentry, forall_mem_of_all rfl⟩, hrow⟩, forall_mem_of_all rfl⟩
  have hcaller : ∀ x ∈ callerText.chars, (x != '&') = true := forall_mem_of_all rfl
  simp only [lead, List.forall_mem_append, List.forall_mem_cons]
  exact ⟨hdeclaration, rfl, hroutine, rfl, hcaller⟩

/-- A match of the entry recognizer begins with a letter, white space and `&`. -/
theorem exists_of_mem_runs_entryPattern {place q : Place}
    (hq : q ∈ entryPattern.node.runs place) :
    ∃ x b t, place.rest = x :: b ++ '&' :: t ∧ x ≠ '&' ∧ ∀ y ∈ b, isBlank y = true := by
  rw [entryPattern] at hq
  obtain ⟨m₁, hm₁, hq₁⟩ := Node.mem_runs_cats_cons.1 hq
  obtain ⟨-, rfl⟩ := Node.mem_runs_look.1 hm₁
  obtain ⟨m₂, hm₂, hq₂⟩ := Node.mem_runs_cats_cons.1 hq₁
  obtain ⟨x, t, hx, hxc, rfl⟩ := Node.mem_runs_one.1 hm₂
  obtain ⟨m₃, hm₃, hq₃⟩ := Node.mem_runs_cats_cons.1 hq₂
  obtain ⟨b, t', hb, hblank, rfl⟩ := Node.mem_runs_many.1 hm₃
  obtain ⟨m₄, hm₄, -⟩ := (Node.mem_runs_cats_cons (a := .char '&')).1 hq₃
  obtain ⟨t'', ht, -⟩ := Node.mem_runs_char.1 hm₄
  rw [Place.rest_after] at hb ht
  refine ⟨x, b, t'', by rw [hx, hb, ht]; rfl, ?_, hblank⟩
  rintro rfl
  exact absurd hxc (by decide)

/-- A match of the entry recognizer does not begin where more than `c` is to come before `&`. -/
theorem notMem_runs_entryPattern {place q : Place} {v r : List Char}
    (hrest : place.rest = v ++ 'c' :: '&' :: r) (hv : v ≠ [])
    (hamp : ∀ x ∈ v, (x != '&') = true) : q ∉ entryPattern.node.runs place := by
  intro hq
  obtain ⟨x, b, t, htext, hx, hblank⟩ := exists_of_mem_runs_entryPattern hq
  -- both texts are cut at their first `&`
  have hcut : v ++ ['c'] ++ '&' :: r = x :: b ++ '&' :: t := by
    rw [← htext, hrest, List.append_assoc]
    rfl
  have hb : ∀ y ∈ b, (y != '&') = true := by
    intro y hy
    rw [bne_iff_ne]
    rintro rfl
    exact absurd (hblank _ hy) (by decide)
  have hfront : v ++ ['c'] = x :: b :=
    eq_of_append_cons_eq (p := (· != '&')) hcut
      (List.forall_mem_append.2 ⟨hamp, forall_mem_of_all rfl⟩)
      (List.forall_mem_cons.2 ⟨bne_iff_ne.2 hx, hb⟩) rfl rfl
  -- so the letter in front of it is among the white space
  obtain ⟨y, v, rfl⟩ := List.exists_cons_of_ne_nil hv
  have hc : 'c' ∈ b := by
    rw [← (List.cons.inj hfront).2]
    exact List.mem_append_right v List.mem_cons_self
  exact absurd (hblank _ hc) (by decide)

theorem all_nameClass : ∀ c ∈ s.entry.chars, nameClass.has c = true := by
  intro c hc
  exact nameClass_of_isEntryChar (s.entry.all_has c hc)

/-- A match of the entry recognizer that begins at the condition captures the name. -/
theorem first_entryPattern (place : Place) (hlast : place.last = some '\x7b')
    (hrest : place.rest = settingText.chars ++ (s.entry.chars ++ calledText.chars)) :
    ∃ q, entryPattern.node.first place some = some q ∧ q.captured? 1 = some s.entry.chars := by
  have hedge : (Look.edge isWord).holds place.last place.rest = true := by
    rw [hlast, hrest]
    rfl
  -- the last part of the setting is white space, which must not take any of the name
  have hdrop : (s.entry.chars ++ calledText.chars).dropWhile CharClass.blank.has =
      s.entry.chars ++ calledText.chars := by
    obtain ⟨c, cs, hcs⟩ := List.exists_cons_of_ne_nil s.entry.ne_nil
    have hc : isBlank c = false := s.entry.toPlain.isBlank_eq_false c (hcs ▸ List.mem_cons_self)
    rw [hcs, List.cons_append, List.dropWhile_cons_of_neg]
    simp [CharClass.has, hc]
  have hwalk : walk entrySetting (settingText.chars ++ (s.entry.chars ++ calledText.chars)) =
      some (s.entry.chars ++ calledText.chars) :=
    congrArg some hdrop
  obtain ⟨w, -, hgo⟩ := Node.first_of_walk hwalk
  apply Node.exists_of_first
  rw [entryPattern, Node.first_cats_cons, Node.first_look hedge]
  refine hgo hrest ?_
  rw [Node.first_cats_cons, Node.first_group]
  refine Node.first_plus rfl s.entry.ne_nil s.all_nameClass (by rintro x ⟨⟩; decide) ?_
  rw [Node.first_cats_cons, Node.first_char rfl, Node.first_cats_nil]
  refine congrArg some (eq_true ?_)
  exact Place.captured?_close_self rfl 1 _ rfl

/-- **The name of the entry routine is found** where the routine is called. -/
theorem recognize_entryUsual : entryUsual.recognize s.text none = .ok (some s.entry.chars) := by
  have hlast : (s.lead.getLast?.or none) = some '\x7b' := by
    have hhead : ('\n' :: (s.routine ++ '\n' :: callerText.chars)).getLast? = some '\x7b' := by
      rw [← List.cons_append, List.getLast?_append_of_ne_nil _ (List.cons_ne_nil _ _)]
      rfl
    rw [lead, List.getLast?_append_of_ne_nil _ (List.cons_ne_nil _ _), hhead]
    rfl
  obtain ⟨q, hfirst, hq⟩ := s.first_entryPattern
    ⟨s.lead.getLast?.or none, _, 0 + s.lead.length, [], []⟩ hlast rfl
  have hfind : entryPattern.find? s.text = some q := by
    rw [Pattern.find?, text_eq_lead, Node.search_append, Node.search_of_first hfirst]
    intro u v huv hv place
    refine notMem_runs_entryPattern (r := settingText.chars.drop 2 ++ _) rfl hv fun x hx ↦ ?_
    exact s.ne_ampersand_of_mem_lead x (huv ▸ List.mem_append_right u hx)
  rw [Recognizer.recognize_of_read read_entryUsual, hfind]
  exact congrArg Except.ok ((Recognizer.chosen_value _ q).trans hq)

/-! ### The plan text -/

/-- A character that can stand behind an equality sign where no function is assigned. -/
def isAssigned (c : Char) : Bool :=
  !isBlank c && c != 'f'

theorem follows_member (h : WrittenName isPlain × Body) : Follows '=' isAssigned (member h) := by
  have hname : Follows '=' isAssigned (h.1.chars ++ [':']) :=
    follows_of_notMem (by simp [h.1.notMem (show isPlain '=' = false by rfl)])
  have hbody : Follows '=' isAssigned h.2.spelled.chars := by cases h.2 <;> decide
  have hmember : member h = h.1.chars ++ [':'] ++ h.2.spelled.chars := by
    rw [member, h.2.spelled.toList_eq, List.append_assoc]
    rfl
  rw [hmember]
  exact hname.append hbody (.inl (by simp))

/-- No function is assigned in the declaration of the object. -/
theorem follows_declaration : Follows '=' isAssigned s.declaration := by
  have hlines : Follows '=' isAssigned s.memberLines := by
    refine Follows.intercalate (by decide) (fun t ht ↦ ?_) (by decide)
      (.inr (by rintro d ⟨⟩; rfl)) (List.cons_ne_nil _ _)
    obtain ⟨h, -, rfl⟩ := List.mem_map.1 ht
    exact follows_member h
  have hname : '=' ∉ varText.chars ++ s.object.chars := by
    rw [List.mem_append, not_or]
    exact ⟨by decide, s.object.notMem rfl⟩
  have hbraced : Follows '=' isAssigned bracedText.chars := by decide
  have hend : Follows '=' isAssigned ['\x7d', ';'] := by decide
  have hhead := (follows_of_notMem hname).append hbraced
    (.inl fun h ↦ hname (List.mem_of_mem_getLast? h))
  have hopen : '=' ∉ (varText.chars ++ s.object.chars ++ bracedText.chars).getLast? := by
    rw [List.getLast?_append_of_ne_nil _ (by decide)]
    decide
  exact (hhead.append hlines (.inl hopen)).append hend (.inr (by rintro d ⟨⟩; rfl))

theorem getLast?_declaration : s.declaration.getLast? = some ';' := by
  rw [declaration, List.getLast?_append_of_ne_nil _ (List.cons_ne_nil _ _)]
  rfl

theorem semicolon_mem_of_suffix {u v : List Char} (h : s.declaration = u ++ v) (hv : v ≠ []) :
    ';' ∈ v := by
  have hlast := s.getLast?_declaration
  rw [h, List.getLast?_append_of_ne_nil u hv] at hlast
  exact List.mem_of_mem_getLast? hlast

theorem notMem_entry {c : Char} (hc : isPlain c = false) : c ∉ s.entry.chars :=
  s.entry.toPlain.notMem hc

/-- Where a match of the plan recognizer goes on with the name, a function is assigned to it. -/
theorem exists_of_mem_runs_behindNodes {name : List Char} {place q : Place}
    (hq : q ∈ (Node.cats (word name ++ planTemplate.behindNodes)).runs place) :
    ∃ b b' t, place.rest = name ++ b ++ '=' :: (b' ++ ['f']) ++ t ∧
      (∀ x ∈ b, isBlank x = true) ∧ ∀ x ∈ b', isBlank x = true := by
  obtain ⟨t, ht, hq₀⟩ := Node.mem_runs_word.1 hq
  obtain ⟨m₁, hm₁, hq₁⟩ := (Node.mem_runs_cats_cons (a := Node.blanks)).1 hq₀
  obtain ⟨b, t₁, hb, hblank, rfl⟩ := Node.mem_runs_many.1 hm₁
  obtain ⟨m₂, hm₂, hq₂⟩ := (Node.mem_runs_cats_cons (a := .char '=')).1 hq₁
  obtain ⟨t₂, ht₂, rfl⟩ := Node.mem_runs_char.1 hm₂
  obtain ⟨m₃, hm₃, hq₃⟩ := (Node.mem_runs_cats_cons (a := Node.blanks)).1 hq₂
  obtain ⟨b', t₃, hb', hblank', rfl⟩ := Node.mem_runs_many.1 hm₃
  obtain ⟨m₄, hm₄, -⟩ := (Node.mem_runs_cats_cons (a := .char 'f')).1 hq₃
  obtain ⟨t₄, ht₄, -⟩ := Node.mem_runs_char.1 hm₄
  rw [Place.rest_after] at hb ht₂ hb' ht₄
  refine ⟨b, b', t₄, ?_, hblank, hblank'⟩
  rw [ht, hb, ht₂, hb', ht₄]
  simp

/-- The routine is not assigned in the declaration of the object, whatever its name is. -/
theorem ne_assigned {u v r b b' t : List Char} (h : s.declaration = u ++ v)
    (hb : ∀ x ∈ b, isBlank x = true) (hb' : ∀ x ∈ b', isBlank x = true) :
    s.entry.chars ++ b ++ '=' :: (b' ++ ['f']) ++ t ≠ v ++ '\n' :: r := by
  intro htext
  have hv : v ≠ [] := by
    rintro rfl
    obtain ⟨c, cs, hcs⟩ := List.exists_cons_of_ne_nil s.entry.ne_nil
    rw [hcs] at htext
    obtain rfl : c = '\n' := (List.cons.inj htext).1
    exact s.notMem_entry (by decide) (hcs ▸ List.mem_cons_self)
  -- the declaration ends with a semicolon, so there is one in what is left of it
  obtain ⟨w, w', rfl⟩ := List.append_of_mem (s.semicolon_mem_of_suffix h hv)
  -- the assignment has no semicolon, so it ends in the declaration
  have hsemi : ';' ∉ s.entry.chars ++ b ++ '=' :: (b' ++ ['f']) := by
    have hentry : ';' ∉ s.entry.chars := s.notMem_entry rfl
    have hb₀ : ';' ∉ b := fun hx ↦ absurd (hb _ hx) (by decide)
    have hb₁ : ';' ∉ b' := fun hx ↦ absurd (hb' _ hx) (by decide)
    simp [hentry, hb₀, hb₁]
  rw [List.append_assoc w] at htext
  obtain ⟨w₂, rfl⟩ := prefix_of_append_eq_append_cons htext hsemi
  -- and behind its equality sign stands white space or a function, which is not so there
  obtain ⟨d, z, hd, hnot⟩ : ∃ d z, b' ++ ['f'] = d :: z ∧ isAssigned d = false := by
    cases b' with
    | nil => exact ⟨'f', [], rfl, rfl⟩
    | cons d z =>
      have hdb : isBlank d = true := hb' d List.mem_cons_self
      exact ⟨d, z ++ ['f'], rfl, by rw [isAssigned, hdb]; rfl⟩
  have hfollows : Follows '=' isAssigned
      (u ++ (s.entry.chars ++ b) ++ '=' :: d :: (z ++ w₂ ++ ';' :: w')) := by
    have := s.follows_declaration
    rw [h, hd] at this
    simpa using this
  rw [hfollows.of_append] at hnot
  cases hnot

/-- The pattern of the plan recognizer for the name of the routine. -/
def planNode : Node :=
  planTemplate.node s.entry.chars

/-- A match of the plan recognizer does not begin in the declaration of the object. -/
theorem notMem_runs_planNode {place q : Place} {u v r : List Char} (h : s.declaration = u ++ v)
    (hv : v ≠ []) (hrest : place.rest = v ++ '\n' :: r) : q ∉ s.planNode.runs place := by
  intro hq
  obtain ⟨m, hm, hq₁⟩ := Node.mem_runs_cats_cons.1 hq
  obtain ⟨b, b', t, htext, hb, hb'⟩ := exists_of_mem_runs_behindNodes hq₁
  -- the name is looked for at the start of the text or behind a character that it cannot have
  rcases Node.mem_runs_alt.1 hm with hm | hm
  · obtain ⟨-, rfl⟩ := Node.mem_runs_look.1 hm
    exact s.ne_assigned h hb hb' (htext.symm.trans hrest)
  · obtain ⟨x, t', hx, -, rfl⟩ := Node.mem_runs_one.1 hm
    obtain ⟨y, v, rfl⟩ := List.exists_cons_of_ne_nil hv
    have hrest' : t' = v ++ '\n' :: r := (List.cons.inj (hx.symm.trans hrest)).2
    rw [← List.singleton_append, ← List.append_assoc] at h
    exact s.ne_assigned h hb hb' (htext.symm.trans hrest')

/-- A match of the closing parts begins with a semicolon, and white space stands behind `return`. -/
theorem exists_of_mem_runs_planClosing {place q : Place}
    (hq : q ∈ (Node.cats planClosing).runs place) :
    ∃ b x t, place.rest = ';' :: (b ++ ("return".toList ++ x :: t)) ∧
      (∀ y ∈ b, isBlank y = true) ∧ isBlank x = true := by
  obtain ⟨m₁, hm₁, hq₁⟩ := (Node.mem_runs_cats_cons (a := .char ';')).1 hq
  obtain ⟨t, ht, rfl⟩ := Node.mem_runs_char.1 hm₁
  obtain ⟨m₂, hm₂, hq₂⟩ := (Node.mem_runs_cats_cons (a := Node.blanks)).1 hq₁
  obtain ⟨b, t₁, hb, hblank, rfl⟩ := Node.mem_runs_many.1 hm₂
  obtain ⟨t₂, ht₂, hq₃⟩ := Node.mem_runs_word.1 hq₂
  obtain ⟨m₃, hm₃, -⟩ := Node.mem_runs_cats_cons.1 hq₃
  obtain ⟨m₄, hm₄, -⟩ := Node.mem_runs_cat.1 hm₃
  obtain ⟨x, t₃, ht₃, hx, -⟩ := Node.mem_runs_one.1 hm₄
  rw [Place.rest_after] at hb ht₂ ht₃
  exact ⟨b, x, t₃, by rw [ht, hb, ht₂, ht₃], hblank, hx⟩

/-- The end of the routine is not found before it comes, because there is no white space between the
statements. -/
theorem notMem_runs_planClosing {place q : Place} {v r : List Char}
    (hrest : place.rest = v ++ (closingText.chars ++ r)) (hv : v ≠ [])
    (hblank : ∀ x ∈ v, isBlank x = false) : q ∉ (Node.cats planClosing).runs place := by
  intro hq
  obtain ⟨b, x, t, htext, hb, hx⟩ := exists_of_mem_runs_planClosing hq
  have hcut : v ++ ";return".toList ++ ' ' :: (closingText.chars.drop 8 ++ r) =
      ';' :: (b ++ ("return".toList ++ x :: t)) := by
    rw [← htext, hrest, List.append_assoc]
    rfl
  have hfront : ∀ y ∈ v ++ ";return".toList, (!isBlank y) = true := by
    refine List.forall_mem_append.2 ⟨fun y hy ↦ ?_, forall_mem_of_all rfl⟩
    rw [hblank y hy]
    rfl
  -- the first white space stands behind `return` on the left, so it does on the right
  cases b with
  | nil =>
    have hx' : (!isBlank x) = false := by
      rw [hx]
      rfl
    have hreturn : v ++ ";return".toList = ";return".toList :=
      eq_of_append_cons_eq (p := fun c ↦ !isBlank c) hcut hfront (forall_mem_of_all rfl) rfl hx'
    exact hv (List.append_left_eq_self.1 hreturn)
  | cons c b =>
    have hc : (!isBlank c) = false := by
      rw [hb c List.mem_cons_self]
      rfl
    have hreturn : v ++ ";return".toList = [';'] :=
      eq_of_append_cons_eq (p := fun c ↦ !isBlank c) hcut hfront (forall_mem_of_all rfl) rfl hc
    have hlength := congrArg List.length hreturn
    rw [List.length_append, show ";return".toList.length = 7 from rfl] at hlength
    exact absurd hlength (by simp)

theorem isBlank_of_mem_statementRow : ∀ x ∈ s.statementRow, isBlank x = false :=
  s.forall_mem_statementRow (fun _ ↦ isBlank_eq_false_of_isPlain) (forall_mem_of_all rfl)

theorem all_not_lineFeed : ∀ x ∈ s.statementRow, (CharClass.not (.only '\n')).has x = true := by
  refine s.forall_mem_statementRow (fun x hx ↦ ?_) (forall_mem_of_all rfl)
  rw [CharClass.has, CharClass.has_only, Bool.not_eq_true', beq_eq_false_iff_ne]
  exact ne_of_isPlain hx rfl

/-- A match of the plan recognizer that begins at the line of the routine captures its
statements. -/
theorem first_planNode (place : Place) {r : List Char} (hlast : place.last = some ';')
    (hrest : place.rest = '\n' :: (s.routine ++ r)) :
    ∃ q, s.planNode.first place some = some q ∧ q.captured? 1 = some s.statementRow := by
  have hopening :
      walk planOpening (openingText.chars ++ (s.statementRow ++ (closingText.chars ++ r))) =
        some (s.statementRow ++ (closingText.chars ++ r)) := rfl
  have hclosing : walk planClosing (closingText.chars ++ r) = some (';' :: r) := rfl
  obtain ⟨w, hw, hgo⟩ := Node.first_of_walk hopening
  obtain ⟨w', hw', hgo'⟩ := Node.first_of_walk hclosing
  have hstart (k : Place → Option Prop) : (Node.look .start).first place k = none := by
    rw [Node.first, hlast]
    rfl
  have hroutine : s.routine ++ r =
      s.entry.chars ++ (openingText.chars ++ (s.statementRow ++ (closingText.chars ++ r))) := by
    simp only [routine, List.append_assoc]
  rw [hroutine] at hrest
  apply Node.exists_of_first
  show (Node.cats (.alt (.look .start) (.one (.not nameClass)) ::
    (word s.entry.chars ++ (planOpening ++ planStatements :: planClosing)))).first place _ = _
  rw [Node.first_cats_cons, Node.first_alt_right (hstart _), Node.first_one hrest (by decide),
    Node.first_word rfl]
  refine hgo rfl ?_
  rw [Node.first_cats_cons, planStatements, Node.first_group]
  -- behind all statements the closing parts follow, and behind fewer of them they do not
  refine Node.first_many_lazy rfl s.all_not_lineFeed ?_ fun u v huv hv ↦ ?_
  · rw [← List.append_nil planClosing]
    refine hgo' rfl ?_
    rw [Node.first_cats_nil]
    refine congrArg some (eq_true ?_)
    exact Place.captured?_close_self rfl 1 _ rfl
  · rw [Node.first_eq_none_iff]
    intro q hq
    refine absurd hq (notMem_runs_planClosing rfl hv fun x hx ↦ ?_)
    exact s.isBlank_of_mem_statementRow x (huv ▸ List.mem_append_right u hx)

/-- **The statements of the routine are found** where it is defined. -/
theorem find?_planNode (names : List (List Char × ℕ)) :
    ∃ q, Pattern.find? ⟨s.planNode, names⟩ s.text = some q ∧
      q.captured? 1 = some s.statementRow := by
  have hlast : (s.declaration.getLast?.or none) = some ';' := by
    rw [s.getLast?_declaration]
    rfl
  obtain ⟨q, hfirst, hq⟩ := s.first_planNode (r := '\n' :: s.caller)
    ⟨s.declaration.getLast?.or none, _, 0 + s.declaration.length, [], []⟩ hlast rfl
  refine ⟨q, ?_, hq⟩
  rw [Pattern.find?, text, Node.search_append, Node.search_of_first hfirst]
  intro u v huv hv place
  exact s.notMem_runs_planNode huv hv rfl

/-! ### The table text -/

theorem memberRow_ne_nil : s.memberRow ≠ [] := by
  obtain ⟨h, hs, hhelpers⟩ := List.exists_cons_of_ne_nil s.helpers_ne_nil
  have hmember : member h ≠ [] := List.append_ne_nil_of_left_ne_nil h.1.ne_nil _
  rw [memberRow, hhelpers, List.map_cons]
  cases hs with
  | nil => rwa [List.map_nil, List.intercalate_singleton]
  | cons h' hs =>
    rw [List.map_cons, List.intercalate_cons_cons, List.append_assoc]
    exact List.append_ne_nil_of_left_ne_nil hmember _

theorem all_bracedClass : ∀ x ∈ s.memberRow, bracedClass.has x = true := by
  refine forall_mem_intercalate (forall_mem_of_all rfl) fun t ht ↦ ?_
  obtain ⟨h, -, rfl⟩ := List.mem_map.1 ht
  refine forall_mem_member (fun x hx ↦ ?_) (by decide) (fun b ↦ ?_) h
  · rcases isPlain_cases hx with hx | rfl
    · simp [bracedClass, CharClass.has, hx]
    · rfl
  · cases b <;> exact forall_mem_of_all rfl

/-- A closing brace stands before a comma or at the end. -/
theorem follows_memberRow : Follows '\x7d' (· == ',') s.memberRow := by
  refine Follows.intercalate (by decide) (fun t ht ↦ ?_) (by decide)
    (.inr (by rintro d ⟨⟩; rfl)) (List.cons_ne_nil _ _)
  obtain ⟨h, -, rfl⟩ := List.mem_map.1 ht
  rw [member_eq]
  exact (follows_of_notMem (brace_notMem_member h)).append (by decide)
    (.inl fun hlast ↦ brace_notMem_member h (List.mem_of_mem_getLast? hlast))

theorem flatten_eq_self {w : List Char} (h : ∀ x ∈ w, x ≠ '\r' ∧ x ≠ '\n') :
    Lookups.flatten w = w := by
  have hmap : w.map (fun c ↦ if c = '\r' ∨ c = '\n' then ' ' else c) = w.map id := by
    refine List.map_congr_left fun x hx ↦ ?_
    rw [if_neg (not_or.2 (h x hx))]
    rfl
  rw [Lookups.flatten, hmap, List.map_id]

theorem not_break_of_isPlain {x : Char} (h : isPlain x = true) : x ≠ '\r' ∧ x ≠ '\n' :=
  ⟨ne_of_isPlain h rfl, ne_of_isPlain h rfl⟩

/-- Without line breaks, the members stand on one line. -/
theorem flatten_text : ∃ r, Lookups.flatten s.text = varText.chars ++
    (s.object.chars ++ ('=' :: '\x7b' :: (s.memberRow ++ '\x7d' :: ';' :: r))) := by
  have hobject : Lookups.flatten s.object.chars = s.object.chars :=
    flatten_eq_self fun x hx ↦ not_break_of_isPlain (s.object.all_has x hx)
  have hmember (h : WrittenName isPlain × Body) : Lookups.flatten (member h) = member h :=
    flatten_eq_self (forall_mem_member (fun _ ↦ not_break_of_isPlain) (by decide)
      (fun b ↦ by cases b <;> exact forall_mem_of_all rfl) h)
  have hlines : Lookups.flatten s.memberLines = s.memberRow := by
    rw [Lookups.flatten, memberLines, map_intercalate, List.map_map]
    exact congrArg _ (List.map_congr_left fun h _ ↦ hmember h)
  refine ⟨Lookups.flatten ('\n' :: (s.routine ++ '\n' :: s.caller)), ?_⟩
  rw [← hobject, ← hlines]
  simp only [text, declaration, Lookups.flatten, List.map_append, List.append_assoc]
  rfl

/-- The pattern of the table recognizer for the name of the object. -/
def tableNode : Node :=
  tableTemplate.node s.object.chars

/-- The end of the object is not found before it comes, because no semicolon stands behind a brace
in it. -/
theorem notMem_runs_tableClosing {place q : Place} {u v r : List Char} (h : s.memberRow = u ++ v)
    (hv : v ≠ []) (hrest : place.rest = v ++ '\x7d' :: ';' :: r) :
    q ∉ (Node.cats [.char '\x7d', .char ';']).runs place := by
  intro hq
  obtain ⟨m₁, hm₁, hq₁⟩ := Node.mem_runs_cats_cons.1 hq
  obtain ⟨t, ht, rfl⟩ := Node.mem_runs_char.1 hm₁
  obtain ⟨m₂, hm₂, -⟩ := Node.mem_runs_cats_cons.1 hq₁
  obtain ⟨t', ht', -⟩ := Node.mem_runs_char.1 hm₂
  rw [Place.rest_after] at ht'
  have hbraces : v ++ '\x7d' :: ';' :: r = '\x7d' :: ';' :: t' := by rw [← hrest, ht, ht']
  match v with
  | [] => exact hv rfl
  | [c] => cases (List.cons.inj (List.cons.inj hbraces).2).1
  | c :: d :: v =>
    obtain rfl : c = '\x7d' := (List.cons.inj hbraces).1
    obtain rfl : d = ';' := (List.cons.inj (List.cons.inj hbraces).2).1
    have hfollows := s.follows_memberRow
    rw [h] at hfollows
    cases hfollows.of_append

/-- A match of the table recognizer that begins at the declaration of the object captures its
members. -/
theorem first_tableNode (place : Place) {r : List Char}
    (hrest : place.rest = varText.chars ++ (s.object.chars ++
      ('=' :: '\x7b' :: (s.memberRow ++ '\x7d' :: ';' :: r)))) :
    ∃ q, s.tableNode.first place some = some q ∧ q.captured? 1 = some s.memberRow := by
  apply Node.exists_of_first
  show (Node.cats (word "var ".toList ++ (word s.object.chars ++
    [.char '=', .char '\x7b', .group 1 (plusLazy bracedClass), .char '\x7d', .char ';']))).first
      place _ = _
  rw [Node.first_word (w := "var ".toList) hrest, Node.first_word rfl, Node.first_cats_cons,
    Node.first_char rfl, Node.first_cats_cons, Node.first_char rfl, Node.first_cats_cons,
    Node.first_group]
  refine Node.first_plusLazy rfl s.memberRow_ne_nil s.all_bracedClass ?_ fun u v huv _ hv ↦ ?_
  · rw [Node.first_cats_cons, Node.first_char rfl, Node.first_cats_cons, Node.first_char rfl,
      Node.first_cats_nil]
    refine congrArg some (eq_true ?_)
    exact Place.captured?_close_self rfl 1 _ rfl
  · rw [Node.first_eq_none_iff]
    exact fun q hq ↦ absurd hq (s.notMem_runs_tableClosing huv hv rfl)

/-- **The members of the object are found** where it is declared. -/
theorem find?_tableNode (names : List (List Char × ℕ)) :
    ∃ q, Pattern.find? ⟨s.tableNode, names⟩ (Lookups.flatten s.text) = some q ∧
      q.captured? 1 = some s.memberRow := by
  obtain ⟨r, hr⟩ := s.flatten_text
  obtain ⟨q, hfirst, hq⟩ := s.first_tableNode ⟨none, _, 0, [], []⟩ hr
  exact ⟨q, Node.search_of_first hfirst, hq⟩

end PlayerScript

end Unscramble

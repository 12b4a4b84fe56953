import Unscramble.Proofs.Recognizers.Plan

/-!
# Where a captured object stands

What is captured of an object stands behind an opening brace, and in front of that the script names
the object: it declares the name or assigns to it, with the name as a whole identifier. Behind the
capture are a closing brace and what the recognizer takes for the end of the definition. The capture
has only characters that a table of helpers can have, at least one of them, and no shorter one from
the same brace would have done.

## Main definitions

* `ObjectForm.Declares`: the texts around a name that is declared or assigned to.
* `bracedMarks`: the marks that a captured text can have.

## Main statements

* `ObjectForm.Declares.delimits`: a name that is declared is a whole identifier.
* `ObjectForm.CutsBehind.length_le`: an object is cut off as early as it can be.
* `Lookups.tableText_shortest`: what is captured of an object, and where it stands.
-/

namespace Unscramble

open Unscramble.Text Unscramble.Pattern
open Pattern.Node (word plus plusLazy)

/-! ### The characters of a capture -/

/-- The marks that a captured text can have, besides word characters and white space. -/
def bracedMarks : List Char :=
  ['$', ',', ';', '%', '.', '(', ')', '[', ']', ':', '=', '\x7b', '\x7d']

theorem has_bracedClass {c : Char} : bracedClass.has c = true ↔
    isWord c = true ∨ c ∈ bracedMarks ∨ isBlank c = true := by
  simp only [bracedClass, bracedMarks, CharClass.has, CharClass.has_only, Bool.or_eq_true,
    beq_iff_eq, List.mem_cons, List.not_mem_nil, or_false, or_assoc]

namespace ObjectForm

variable {f : ObjectForm}

/-- The group of the capture occurs nowhere behind it. -/
theorem isFree_closing (f : ObjectForm) :
    (Node.cats (.char '\x7d' :: f.closing)).isFree 1 = true := by
  cases f <;> rfl

/-- A capture has at least one character, and only those of a table text. -/
theorem all_bracedClass_of_recognize {name text w : List Char} (hname : '%' ∉ name)
    (h : f.recognizer.recognize text (some name) = .ok (some w)) :
    w ≠ [] ∧ ∀ x ∈ w, bracedClass.has x = true := by
  obtain ⟨u, v, q, rfl, hfirst, hq⟩ :=
    Recognizer.exists_first_of_gapped (f.patternText_recognizer name) hname f.names_template h
  obtain ⟨q', hrun, hq'⟩ := Node.exists_mem_runs_of_first hfirst
  obtain rfl : q' = q := Option.some.inj hq'
  have hnode : f.template.node name = Node.cats ((f.template.beforeNodes ++ (word name ++
      (f.assigning ++ [.char '\x7b']))) ++ .group 1 (plusLazy bracedClass) ::
      (.char '\x7d' :: f.closing)) := by
    rw [Gapped.node, behindNodes_template]
    simp only [List.append_assoc, List.cons_append, List.nil_append]
  rw [hnode] at hrun
  obtain ⟨_, _, w', _, _, hw', _, hcaptured⟩ :=
    Node.exists_of_mem_runs_group (Node.consumes_plusLazy bracedClass) f.isFree_closing hrun
  obtain rfl : w' = w := Option.some.inj (hcaptured.symm.trans hq)
  exact hw'

/-! ### The name of an object -/

/-- The texts around a name that is declared or assigned to, up to the opening brace. -/
def Declares : ObjectForm → (before behind : List Char) → Prop
  | usual, s, t => (∃ u, s = u ++ "var ".toList) ∧ t = ['=']
  | declared, s, t =>
    (∃ u, ∃ k ∈ ["var".toList, "let".toList, "const".toList], ∃ b, b ≠ [] ∧
      (∀ x ∈ b, isBlank x = true) ∧ s = u ++ (k ++ b)) ∧
    ∃ b₁ b₂, (∀ x ∈ b₁ ++ b₂, isBlank x = true) ∧ t = b₁ ++ '=' :: b₂
  | assigned, s, t =>
    (∀ x ∈ s.getLast?, dollarClass.has x = false ∧ x ≠ '.') ∧
    ∃ b₁ b₂, (∀ x ∈ b₁ ++ b₂, isBlank x = true) ∧ t = b₁ ++ '=' :: b₂

/-- The text in front of an opening brace has the name in it. -/
theorem Opens.exists_declares {name s : List Char} (h : f.Opens name s) :
    ∃ before behind, s = before ++ (name ++ behind) ∧ f.Declares before behind := by
  cases f with
  | usual =>
    obtain ⟨u, rfl⟩ := h
    exact ⟨u ++ "var ".toList, ['='], by simp, ⟨u, rfl⟩, rfl⟩
  | declared =>
    obtain ⟨u, k, hk, b, b₁, b₂, hne, hblank, rfl⟩ := h
    obtain ⟨hb, hblanks⟩ := List.forall_mem_append.1 hblank
    exact ⟨u ++ (k ++ b), b₁ ++ '=' :: b₂, by simp, ⟨u, k, hk, b, hne, hb, rfl⟩, b₁, b₂, hblanks,
      rfl⟩
  | assigned =>
    obtain ⟨u, b₁, b₂, hlast, hblanks, rfl⟩ := h
    exact ⟨u, b₁ ++ '=' :: b₂, rfl, hlast, b₁, b₂, hblanks, rfl⟩

/-- White space and an equality sign do not go on with an identifier. -/
theorem head?_assigning {b₁ b₂ : List Char} (h : ∀ x ∈ b₁ ++ b₂, isBlank x = true) (r : List Char) :
    ∀ x ∈ ((b₁ ++ '=' :: b₂) ++ r).head?, partClass.has x = false := by
  rw [List.append_assoc]
  exact head?_append_of_blanks (fun x hx ↦ h x (List.mem_append_left b₂ hx)) (by decide) _

/-- **A name that is declared is a whole identifier.** -/
theorem Declares.delimits {before behind : List Char} (h : f.Declares before behind)
    (r : List Char) : Delimits before (behind ++ r) := by
  cases f with
  | usual =>
    obtain ⟨⟨u, rfl⟩, rfl⟩ := h
    refine ⟨fun x hx ↦ ?_, head?_append_of_blanks (b := []) nofun (by decide) _⟩
    have hlast : "var ".toList.getLast? = some ' ' := rfl
    rw [List.getLast?_append_of_ne_nil _ (by decide), hlast] at hx
    obtain rfl : ' ' = x := Option.some.inj hx
    decide
  | declared =>
    obtain ⟨⟨u, k, -, b, hne, hb, rfl⟩, b₁, b₂, hblanks, rfl⟩ := h
    refine ⟨fun x hx ↦ ?_, head?_assigning hblanks r⟩
    rw [← List.append_assoc, List.getLast?_append_of_ne_nil _ hne] at hx
    exact part_eq_false_of_isBlank (hb x (List.mem_of_getLast? hx))
  | assigned =>
    obtain ⟨hlast, b₁, b₂, hblanks, rfl⟩ := h
    exact ⟨fun x hx ↦ (hlast x hx).1, head?_assigning hblanks r⟩

/-! ### No shorter capture -/

/-- **An object is cut off as early as it can be.** -/
theorem CutsBehind.length_le {w rest u s : List Char} (h : f.CutsBehind w rest)
    (heq : w ++ '\x7d' :: rest = u ++ '\x7d' :: s) (hne : u ≠ []) (hcloses : f.Closes s) :
    w.length ≤ u.length := by
  rcases length_le_or_of_append_cons_eq heq with hle | ⟨v, rfl, rfl⟩
  · exact hle
  · exact absurd hcloses (h.not_closes u v rfl hne)

end ObjectForm

/-- **What is captured of an object, and where it stands.** The recognizer that the trail ends with
finds the name as a whole identifier that is declared or assigned to, then a brace, the captured
text, another brace and the end of a definition. The text has at least one character, and only those
that a table of helpers can have. No shorter one from the same brace has such an end behind it. -/
theorem Lookups.tableText_shortest {script name w : List Char}
    (hname : ∀ c ∈ name, isWord c = true ∨ c = '$')
    (h : (standard.tableText script name).outcome = .ok w) :
    ∃ (f : ObjectForm) (earlier later : List Recognizer),
      tableRecognizers = earlier ++ f.recognizer :: later ∧
      (standard.tableText script name).trail = won .tableText earlier f.recognizer ∧
      w ≠ [] ∧ (∀ x ∈ w, isWord x = true ∨ x ∈ bracedMarks ∨ isBlank x = true) ∧
      ∃ before behind rest,
        flatten script = before ++ (name ++ (behind ++ '\x7b' :: (w ++ '\x7d' :: rest))) ∧
        Delimits before (behind ++ '\x7b' :: (w ++ '\x7d' :: rest)) ∧
        f.Declares before behind ∧ f.Closes rest ∧
        ∀ u s, w ++ '\x7d' :: rest = u ++ '\x7d' :: s → u ≠ [] → f.Closes s →
          w.length ≤ u.length := by
  have hpercent : '%' ∉ name := fun hmem ↦ absurd (hname _ hmem) (by decide)
  obtain ⟨earlier, r, later, hsplit, htrail, hr⟩ := Lookup.captures_run h
  obtain ⟨f, rfl⟩ := ObjectForm.exists_recognizer (r := r) <| by
    show r ∈ (standard.get .tableText).recognizers
    rw [hsplit]
    exact List.mem_append_right earlier List.mem_cons_self
  obtain ⟨hne, hall⟩ := ObjectForm.all_bracedClass_of_recognize hpercent hr
  obtain ⟨s, rest, htext, hopens, hcuts⟩ := ObjectForm.exists_cutsBehind_of_recognize hpercent hr
  obtain ⟨before, behind, rfl, hdeclares⟩ := hopens.exists_declares
  rw [List.append_assoc, List.append_assoc] at htext
  exact ⟨f, earlier, later, hsplit, htrail, hne, fun x hx ↦ has_bracedClass.1 (hall x hx), before,
    behind, rest, htext, hdeclares.delimits _, hdeclares, hcuts.closes,
    fun u s heq hu hcloses ↦ hcuts.length_le heq hu hcloses⟩

/-! ### An object on two lines -/

/-- A script in which two longer names are set before the object, which has a line break. -/
def brokenLinesScript : String :=
  "xQr=\x7bno:1\x7d;var Qrs=\x7b\x7d;var Qr=\x7bwR:function(a)\x7ba.reverse()\x7d,\r\n" ++
    "Dd:function(a,b)\x7ba.splice(0,b)\x7d\x7d;Zz=\x7b\x7d;"

/-- The characters of that script. -/
def brokenLinesText : Spelled brokenLinesScript :=
  .append (.of rfl) (.of rfl)

/-- The line break is captured as two spaces, and the braces of the helpers are passed over. -/
theorem Lookups.tableText_shortest_brokenLines :
    ∃ w, (standard.tableText brokenLinesScript.toList ['Q', 'r']).outcome = .ok w ∧
      w = ("wR:function(a)\x7ba.reverse()\x7d,  " ++
        "Dd:function(a,b)\x7ba.splice(0,b)\x7d").toList ∧
      ∃ (f : ObjectForm) (earlier later : List Recognizer),
        tableRecognizers = earlier ++ f.recognizer :: later ∧
        (standard.tableText brokenLinesScript.toList ['Q', 'r']).trail =
          won .tableText earlier f.recognizer ∧
        w ≠ [] ∧ (∀ x ∈ w, isWord x = true ∨ x ∈ bracedMarks ∨ isBlank x = true) ∧
        ∃ before behind rest, flatten brokenLinesScript.toList =
            before ++ (['Q', 'r'] ++ (behind ++ '\x7b' :: (w ++ '\x7d' :: rest))) ∧
          Delimits before (behind ++ '\x7b' :: (w ++ '\x7d' :: rest)) ∧
          f.Declares before behind ∧ f.Closes rest ∧
          ∀ u s, w ++ '\x7d' :: rest = u ++ '\x7d' :: s → u ≠ [] → f.Closes s →
            w.length ≤ u.length := by
  have hout : (standard.tableText brokenLinesText.chars ['Q', 'r']).outcome =
      .ok ("wR:function(a)\x7ba.reverse()\x7d,  " ++
        "Dd:function(a,b)\x7ba.splice(0,b)\x7d").toList := by
    refine Lookup.outcome_run_of_captured (r := tableVar) ?_ _
    rw [Recognizer.recognize_of_gapped (tableVar_patternText _) (by decide) rfl]
    decide +kernel
  have hname : ∀ c ∈ ['Q', 'r'], isWord c = true ∨ c = '$' := forall_mem_of_all rfl
  rw [brokenLinesText.toList_eq]
  exact ⟨_, hout, rfl, tableText_shortest hname hout⟩

end Unscramble

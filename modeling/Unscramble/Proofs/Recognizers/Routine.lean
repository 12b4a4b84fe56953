import Unscramble.Proofs.Recognizers.Statements

/-!
# Which routine a plan is read from

What a recognizer of the plan text captures are the statements of a routine, with the parts in front
of them and behind them that its form requires. A text can have several such routines, and a search
finds the one that begins furthest left. So the routine is known from the text and the form alone,
and with it the place where the name stands: `RoutineForm.Finds` says so without the search.

The identifier at that place need not be the name. What follows the name does not go on with it, but
in front of it the forms differ, as they differ in what they exclude there. So the routine that is
found can be another one, whose name only ends in the one that was asked for, even if a routine of
that name stands further on.

## Main definitions

* `RoutineCut`: a text that is cut at the parts of a routine.
* `RoutineForm.Fits`: the parts are those of a form.
* `RoutineForm.Finds`: the routine that a search for a form finds.

## Main statements

* `RoutineForm.exists_finds_of_recognize`: what is captured are the statements of that routine.
* `RoutineForm.Finds.unique`: there is one place where its name stands.
* `Lookups.planText_delimits_iff`: when the identifier of the routine that a plan is read from is
  the whole name.
-/

namespace Unscramble

open Unscramble.Text Unscramble.Pattern
open Pattern.Node (word)

/-! ### Routines in a text -/

/-- A text that is cut at the parts of a routine. The name stands between `lead` and `head`. -/
structure RoutineCut where
  /-- The text in front of the routine. -/
  before : List Char
  /-- What belongs to the routine in front of its name. -/
  lead : List Char
  /-- From the name to the parameter. -/
  head : List Char
  /-- From the parameter to the statements. -/
  opening : List Char
  statements : List Char
  /-- From the statements to the end of the routine. -/
  closing : List Char
  /-- The text behind the routine. -/
  rest : List Char

namespace RoutineCut

/-- What follows the name. -/
def behind (d : RoutineCut) : List Char :=
  d.head ++ (d.opening ++ (d.statements ++ (d.closing ++ d.rest)))

/-- What follows the text in front of the routine. -/
def tail (d : RoutineCut) (name : List Char) : List Char :=
  d.lead ++ (name ++ d.behind)

/-- The whole text. -/
def text (d : RoutineCut) (name : List Char) : List Char :=
  d.before ++ d.tail name

end RoutineCut

namespace RoutineForm

/-- From the parameter to the statements. Old scripts have one statement there, of which little is
required. -/
def splitPieces : RoutineForm → List Piece
  | assigned | declared => splittingPieces
  | legacy => [.one .word, .char ')', .char '\x7b', .any legacyClass, .char ';']

/-- From the statements to the end of the routine. In old scripts anything may be returned. -/
def closePieces : RoutineForm → List Piece
  | assigned | declared => .char ';' :: joiningPieces
  | legacy =>
    .char ';' :: (Piece.text "return".toList ++ [.some (.not (.only '\n')), .char '\x7d'])

/-- The parts are those of a routine in this form. -/
structure Fits (f : RoutineForm) (d : RoutineCut) : Prop where
  leads : f.Leads d.before d.lead
  names : f.Names d.head
  splits : Spells f.splitPieces d.opening
  not_lineFeed : '\n' ∉ d.statements
  closes : Spells f.closePieces d.closing

/-- The routine that a search for the form and the name finds: none in this form begins further
left. -/
structure Finds (f : RoutineForm) (script name : List Char) (d : RoutineCut) : Prop where
  text_eq : script = d.text name
  fits : f.Fits d
  leftmost : ∀ d' : RoutineCut, script = d'.text name → f.Fits d' →
    d.before.length ≤ d'.before.length

variable {f : RoutineForm} {d d' : RoutineCut} {p q : Place} {script name : List Char}

/-! ### Runs and routines -/

theorem splitting_eq (f : RoutineForm) : f.splitting = f.splitPieces.map Piece.node := by
  cases f <;> rfl

/-- The parts behind the statements, which the form of old scripts has in a group. -/
theorem mem_runs_closing : q ∈ (Node.cats f.closing).runs p ↔
    ∃ w rest, p.rest = w ++ rest ∧ Spells f.closePieces w ∧ q = p.after w rest := by
  rw [← Node.mem_runs_pieces]
  cases f with
  | assigned | declared => exact Iff.rfl
  | legacy =>
    rw [closing, legacyClosing, Node.mem_runs_cats_cons, closePieces, List.map_cons,
      Node.mem_runs_cats_cons]
    refine exists_congr fun m ↦ and_congr_right fun _ ↦ ?_
    rw [Node.mem_runs_cats_cons, ← Node.mem_runs_cats_append]
    rfl

/-- **A run of the pattern of a form** goes over a routine in that form, and captures its
statements. -/
theorem exists_fits_of_mem_runs {u : List Char} (hlast : p.last = u.getLast?)
    (h : q ∈ (f.template.node name).runs p) :
    ∃ d : RoutineCut, f.Fits d ∧ d.before = u ∧ p.rest = d.tail name ∧
      q.captured? 1 = some d.statements := by
  rw [node_template] at h
  obtain ⟨m, hm, w, _, hrest, hw, hclose, hcaptured⟩ :=
    Node.exists_of_mem_runs_group (Node.consumes_many _ _) f.isFree_closing h
  obtain ⟨lead, head, m₁, hp, hlead, hnames, hsplit⟩ := exists_of_mem_runs_front hlast hm
  rw [splitting_eq] at hsplit
  obtain ⟨opening, _, hm₁, hopening, rfl⟩ := Node.mem_runs_pieces.1 hsplit
  obtain ⟨closing, rest, rfl, hclosing, -⟩ := mem_runs_closing.1 hclose
  refine ⟨⟨u, lead, head, opening, w, closing, rest⟩,
    ⟨hlead, hnames, hopening, CharClass.forall_has_not_only_iff.1 hw, hclosing⟩, rfl, ?_, hcaptured⟩
  rw [hp, hm₁]
  exact congrArg (fun r ↦ lead ++ (name ++ (head ++ (opening ++ r)))) hrest

/-- **A routine in a form can be run over** from where it begins. -/
theorem Fits.exists_mem_runs (h : f.Fits d) (hlast : p.last = d.before.getLast?)
    (hrest : p.rest = d.tail name) : ∃ q, q ∈ (f.template.node name).runs p := by
  have toName := (mem_runs_before hlast).2 ⟨d.lead, name ++ d.behind, hrest, h.leads, rfl⟩
  obtain ⟨m, toStatements, hm⟩ :
      ∃ m ∈ (Node.cats (f.template.beforeNodes ++ (word name ++ (f.naming ++ f.splitting)))).runs p,
        m.rest = d.statements ++ (d.closing ++ d.rest) := by
    rw [naming_eq, splitting_eq]
    exact ⟨_, Node.mem_runs_cats_append.2 ⟨_, toName, Node.mem_runs_word.2 ⟨d.behind, rfl,
      Node.mem_runs_cats_append.2
        ⟨_, Node.mem_runs_pieces.2 ⟨d.head, _, rfl, spells_namePieces.2 h.names, rfl⟩,
          Node.mem_runs_pieces.2 ⟨d.opening, _, rfl, h.splits, rfl⟩⟩⟩⟩, rfl⟩
  rw [node_template]
  exact ⟨_, Node.mem_runs_cats_append.2 ⟨m, toStatements, Node.mem_runs_cats_cons.2
    ⟨_, Node.mem_runs_group.2 ⟨_, Node.mem_runs_many.2
        ⟨d.statements, _, hm, CharClass.forall_has_not_only_iff.2 h.not_lineFeed, rfl⟩, rfl⟩,
      mem_runs_closing.2 ⟨d.closing, d.rest, rfl, h.closes, rfl⟩⟩⟩⟩

/-- **What the recognizer of a form captures** are the statements of the routine that a search
finds. -/
theorem exists_finds_of_recognize {w : List Char} (hname : '%' ∉ name)
    (h : f.recognizer.recognize script (some name) = .ok (some w)) :
    ∃ d, f.Finds script name d ∧ d.statements = w := by
  obtain ⟨u, v, q, rfl, hfirst, hq, hleft⟩ :=
    Recognizer.exists_leftmost_of_gapped (f.patternText_recognizer name) hname f.names_template h
  obtain ⟨q', hrun, hq'⟩ := Node.exists_mem_runs_of_first hfirst
  obtain rfl : q' = q := Option.some.inj hq'
  obtain ⟨d, hfits, rfl, hv, hcaptured⟩ := exists_fits_of_mem_runs (u := u) Option.or_none hrun
  refine ⟨d, ⟨?_, hfits, fun d' htext hfits' ↦ ?_⟩, Option.some.inj (hcaptured.symm.trans hq)⟩
  · exact congrArg (d.before ++ ·) hv
  · by_contra hlt
    exact hleft d'.before (d'.tail name) htext (Nat.lt_of_not_le hlt)
      (hfits'.exists_mem_runs Option.or_none rfl)

/-! ### The place of the name -/

theorem isBlank_eq_false_of_nameClass {c : Char} (h : nameClass.has c = true) :
    isBlank c = false := by
  have hcodes : ∀ n ∈ blankCodes, nameClass.has (Char.ofNat n) = false := by decide
  rw [Bool.eq_false_iff]
  intro hblank
  have hcode := hcodes _ (toNat_mem_blankCodes hblank)
  rw [Char.ofNat_toNat, h] at hcode
  cases hcode

/-- White space in front of a name ends where the name begins. -/
theorem takeWhile_isBlank_append {b r : List Char} (hb : ∀ x ∈ b, isBlank x = true)
    (hne : name ≠ []) (hname : ∀ c ∈ name, nameClass.has c = true) :
    (b ++ (name ++ r)).takeWhile isBlank = b := by
  obtain ⟨c, cs, rfl⟩ := List.exists_cons_of_ne_nil hne
  have hc := isBlank_eq_false_of_nameClass (hname c List.mem_cons_self)
  rw [List.takeWhile_append_of_pos hb, List.cons_append,
    List.takeWhile_cons_of_neg (Bool.eq_false_iff.1 hc), List.append_nil]

/-- What belongs to a routine in front of its name is known from the text that begins with it. -/
theorem Leads.eq_of_append_eq {u lead lead' r r' : List Char} (h : f.Leads u lead)
    (h' : f.Leads u lead') (hne : name ≠ []) (hname : ∀ c ∈ name, nameClass.has c = true)
    (heq : lead ++ (name ++ r) = lead' ++ (name ++ r')) : lead = lead' := by
  obtain ⟨c, cs, hcons⟩ := List.exists_cons_of_ne_nil hne
  -- a character that no name has cannot be the first one of the name
  have hfirst {x : Char} {s t : List Char} (hx : nameClass.has x = false) :
      name ++ s ≠ x :: t := by
    rw [hcons, List.cons_append]
    rintro heq
    obtain rfl := (List.cons.inj heq).1
    rw [hname c (hcons ▸ List.mem_cons_self)] at hx
    cases hx
  cases f with
  | assigned =>
    rcases h with ⟨-, rfl⟩ | ⟨x, rfl, hx⟩ <;> rcases h' with ⟨-, rfl⟩ | ⟨y, rfl, hy⟩
    · rfl
    · exact absurd heq (hfirst hy)
    · exact absurd heq.symm (hfirst hx)
    · rw [(List.cons.inj heq).1]
  | declared =>
    obtain ⟨b, -, hb, rfl⟩ := h
    obtain ⟨b', -, hb', rfl⟩ := h'
    rw [List.append_assoc, List.append_assoc, List.append_cancel_left_eq] at heq
    rw [← takeWhile_isBlank_append hb hne hname, heq, takeWhile_isBlank_append hb' hne hname]
  | legacy =>
    obtain rfl : lead = [] := h
    exact Eq.symm h'

/-- **There is one place where the name of the routine stands** that a search finds. -/
theorem Finds.unique (h : f.Finds script name d) (h' : f.Finds script name d') (hne : name ≠ [])
    (hname : ∀ c ∈ name, nameClass.has c = true) : d'.before = d.before ∧ d'.lead = d.lead := by
  have hlength : d'.before.length = d.before.length :=
    Nat.le_antisymm (h'.leftmost d h.text_eq h.fits) (h.leftmost d' h'.text_eq h'.fits)
  obtain ⟨hbefore, htail⟩ := List.append_inj (h'.text_eq.symm.trans h.text_eq) hlength
  have hleads := h.fits.leads
  rw [← hbefore] at hleads
  exact ⟨hbefore, h'.fits.leads.eq_of_append_eq hleads hne hname htail⟩

end RoutineForm

/-- **The routine that a plan is read from** is the one that a search for the form of the recognizer
finds with which the trail ends, and the plan has its statements. Its identifier is the whole name,
unless something stands right in front of the name that the form does not exclude: for an assigned
routine a word character that no entry routine's name has, and for a routine of an old script any
character of an identifier. -/
theorem Lookups.planText_delimits_iff {script name w : List Char}
    (hname : ∀ c ∈ name, nameClass.has c = true)
    (h : (standard.planText script name).outcome = .ok w) :
    ∃ (f : RoutineForm) (earlier later : List Recognizer) (d : RoutineCut),
      planRecognizers = earlier ++ f.recognizer :: later ∧
      (standard.planText script name).trail = won .planText earlier f.recognizer ∧
      f.Finds script name d ∧ d.statements = w ∧
      (∀ d' : RoutineCut, f.Finds script name d' → name ≠ [] →
        d'.before = d.before ∧ d'.lead = d.lead) ∧
      (Delimits (d.before ++ d.lead) d.behind ↔ f.IsGuarded (d.before ++ d.lead)) := by
  have hpercent : '%' ∉ name := fun hmem ↦ absurd (hname _ hmem) (by decide)
  obtain ⟨earlier, r, later, hsplit, htrail, hr⟩ := Lookup.captures_run h
  obtain ⟨f, rfl⟩ := RoutineForm.exists_recognizer
    (hsplit ▸ List.mem_append_right earlier List.mem_cons_self)
  obtain ⟨d, hfinds, hstatements⟩ := RoutineForm.exists_finds_of_recognize hpercent hr
  exact ⟨f, earlier, later, d, hsplit, htrail, hfinds, hstatements,
    fun d' hd' hne ↦ hfinds.unique hd' hne hname,
    hfinds.fits.leads.opens.delimits_iff (hfinds.fits.names.head? _)⟩

/-! ### A routine with a longer name -/

/-- A script in which an underscore stands in front of the name of an earlier routine. -/
def longerNameScript : String :=
  "a_Xy=function(a)\x7ba=a.split(\"\");Zz.ab(a,1);return a.join(\"\")\x7d;" ++
    "Xy=function(a)\x7ba=a.split(\"\");Qr.wR(a,3);return a.join(\"\")\x7d;"

/-- The characters of that script. -/
def longerNameText : Spelled longerNameScript :=
  .append (.of rfl) (.of rfl)

/-- In front of a word that occurs once in a text stands what comes before that place. -/
theorem eq_take_of_once {l u w v : List Char} {k : ℕ} (h : l = u ++ (w ++ v))
    (honce : ∀ i ≤ l.length, w <+: l.drop i → i = k) : u = l.take k := by
  have hlength : u.length = k := by
    refine honce _ ?_ ?_
    · rw [h, List.length_append]
      exact Nat.le_add_right _ _
    · rw [h, List.drop_left]
      exact List.prefix_append w v
  rw [← hlength, h, List.take_left]

/-- The plan is read from the routine with the longer name, although the one that was asked for
stands behind it. -/
theorem Lookups.planText_longerName :
    ∃ (f : RoutineForm) (earlier later : List Recognizer) (d : RoutineCut),
      planRecognizers = earlier ++ f.recognizer :: later ∧
      (standard.planText longerNameScript.toList ['X', 'y']).trail =
        won .planText earlier f.recognizer ∧
      f.Finds longerNameScript.toList ['X', 'y'] d ∧
      d.statements = "Zz.ab(a,1)".toList ∧ d.before ++ d.lead = "a_".toList ∧
      ¬ Delimits (d.before ++ d.lead) d.behind := by
  have hout : (standard.planText longerNameText.chars ['X', 'y']).outcome =
      .ok "Zz.ab(a,1)".toList := by
    refine Lookup.outcome_run_of_captured (r := planAssigned) ?_ _
    rw [Recognizer.recognize_of_gapped (planAssigned_patternText _) (by decide) rfl]
    decide +kernel
  have hname : ∀ c ∈ ['X', 'y'], nameClass.has c = true := forall_mem_of_all rfl
  rw [longerNameText.toList_eq]
  obtain ⟨f, earlier, later, d, hsplit, htrail, hfinds, hstatements, -, -⟩ :=
    planText_delimits_iff hname hout
  have htext := hfinds.text_eq
  rw [RoutineCut.text, RoutineCut.tail, RoutineCut.behind, hstatements] at htext
  -- the statements occur once in the script, and the name once in front of them
  have hfront : d.before ++ (d.lead ++ (['X', 'y'] ++ (d.head ++ d.opening))) =
      longerNameText.chars.take 31 :=
    eq_take_of_once (w := "Zz.ab(a,1)".toList) (v := d.closing ++ d.rest)
      (by rw [htext]; simp only [List.append_assoc]) (by decide +kernel)
  have hbefore : d.before ++ d.lead = (longerNameText.chars.take 31).take 2 :=
    eq_take_of_once (w := ['X', 'y']) (v := d.head ++ d.opening)
      (by rw [← hfront, List.append_assoc]) (by decide +kernel)
  refine ⟨f, earlier, later, d, hsplit, htrail, hfinds, hstatements, hbefore, ?_⟩
  rw [hbefore]
  rintro ⟨hlast, -⟩
  exact absurd (hlast '_' rfl) (by decide)

end Unscramble

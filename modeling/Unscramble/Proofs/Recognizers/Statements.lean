import Unscramble.Proofs.Pattern.Pieces
import Unscramble.Proofs.Recognizers.Plan

/-!
# Which statements are cut out of a routine

A routine splits its parameter into characters, works on them and joins them again. The recognizers
of assigned and of declared routines require all of that, so what they capture is the work: it
begins right behind the semicolon of the splitting and ends in front of the first semicolon behind
which the text joins and the routine is closed. They capture no line feed, so the work has to stand
on one line, although white space elsewhere may break lines. The form of old scripts is less strict,
and nothing is said of it here.

The splitting and the joining are sequences of classes, so they are described by the words that
these spell.

## Main definitions

* `splittingPieces`, `joiningPieces`: the parts in front of the statements and behind them.
* `Joins`: a text begins by joining and closing a routine.
* `IsWork`: where the work of a routine ends.

## Main statements

* `RoutineForm.exists_isWork_of_first`: a match of a strict form captures the work.
* `Lookups.planText_isWork`: the text of a plan is the work of a routine, if a strict form matched.
-/

namespace Unscramble

open Unscramble.Text Unscramble.Pattern
open Pattern.Node (word)

/-! ### Splitting and joining -/

/-- The parts from the parameter of a routine to its statements: the parameter and the brace, then a
name that is set to the characters of a name. -/
def splittingPieces : List Piece :=
  [.blanks, .some .word, .blanks, .char ')', .blanks, .char '\x7b', .blanks, .some .word, .blanks,
    .char '=', .blanks, .some .word] ++ Piece.text ".split(".toList ++
    [.blanks, .char '"', .char '"', .blanks, .char ')', .blanks, .char ';']

/-- The parts behind the statements of a routine and their last semicolon: the characters of a name
are joined and returned, and the routine is closed. -/
def joiningPieces : List Piece :=
  .blanks :: (Piece.text "return".toList ++ .some .blank :: .some .word ::
    (Piece.text ".join(".toList ++
      [.blanks, .char '"', .char '"', .blanks, .char ')', .blanks, .char '\x7d']))

theorem routineSplitting_eq : routineSplitting = splittingPieces.map Piece.node := rfl

theorem planClosing_eq : planClosing = .char ';' :: joiningPieces.map Piece.node := rfl

/-- The text begins by joining and closing a routine. -/
def Joins (s : List Char) : Prop :=
  ∃ w r, s = w ++ r ∧ Spells joiningPieces w

theorem joins_iff_exists_mem_runs {p : Place} :
    Joins p.rest ↔ ∃ q, q ∈ (Node.cats (joiningPieces.map Piece.node)).runs p := by
  constructor
  · rintro ⟨w, r, hp, hw⟩
    exact ⟨_, Node.mem_runs_pieces.2 ⟨w, r, hp, hw, rfl⟩⟩
  · rintro ⟨q, hq⟩
    obtain ⟨w, r, hp, hw, -⟩ := Node.mem_runs_pieces.1 hq
    exact ⟨w, r, hp, hw⟩

/-! ### The work of a routine -/

/-- In a text, `w` is the work that ends in front of the semicolon before `rest`: it stands on one
line, and that is the first semicolon behind which the text joins and closes the routine. -/
structure IsWork (w rest : List Char) : Prop where
  not_lineFeed : '\n' ∉ w
  joins : Joins rest
  length_le : ∀ u s, w ++ ';' :: rest = u ++ ';' :: s → Joins s → w.length ≤ u.length

namespace RoutineForm

variable {f : RoutineForm} {p q : Place}

/-- The strict forms have the same parts behind the name. -/
theorem parts_of_ne_legacy (hf : f ≠ legacy) : f.isGreedy = false ∧
    f.splitting = splittingPieces.map Piece.node ∧
    f.closing = .char ';' :: joiningPieces.map Piece.node := by
  cases f with
  | assigned | declared => exact ⟨rfl, routineSplitting_eq, planClosing_eq⟩
  | legacy => exact absurd rfl hf

/-- **A match of a strict form captures the work** behind the splitting. -/
theorem exists_isWork_of_first {name : List Char} (hf : f ≠ legacy)
    (h : (f.template.node name).first p some = some q) :
    ∃ m ∈ (Node.cats (f.template.beforeNodes ++ (word name ++ (f.naming ++ f.splitting)))).runs p,
      ∃ w rest, m.rest = w ++ ';' :: rest ∧ q.captured? 1 = some w ∧ IsWork w rest := by
  obtain ⟨hgreedy, -, hclosing⟩ := parts_of_ne_legacy hf
  rw [node_template, hgreedy, hclosing] at h
  obtain ⟨m, hm, h⟩ := Node.exists_of_first_append h
  refine ⟨m, hm, ?_⟩
  rw [Node.first_cats_cons, Node.first_group, Node.first, if_neg Bool.false_ne_true] at h
  -- the lazy class stops behind `w`
  obtain ⟨w, rest', hstops⟩ := Node.exists_stopsBehind_of_nearest rfl h
  obtain ⟨q', hq', hsome⟩ := Node.exists_mem_runs_of_first hstops.answer
  obtain rfl : q' = q := Option.some.inj hsome
  obtain ⟨m₁, toEnd, hq'⟩ := Node.mem_runs_cats_cons.1 hq'
  obtain ⟨rest, hclose, rfl⟩ := Node.mem_runs_char.1 toEnd
  obtain rfl : rest' = ';' :: rest := hclose
  have hjoins : Joins rest := joins_iff_exists_mem_runs.2 ⟨q', hq'⟩
  obtain ⟨_, _, -, -, rfl⟩ := Node.mem_runs_pieces.1 hq'
  refine ⟨w, rest, hstops.rest_eq, ?_, CharClass.forall_has_not_only_iff.1 hstops.all_has, hjoins,
    fun u s heq hearlier ↦ ?_⟩
  · rw [Place.captured?_after, Place.captured?_after]
    exact Place.captured?_close_self hstops.rest_eq 1 _ rfl
  · rcases length_le_or_of_append_cons_eq heq with hle | ⟨x, rfl, rfl⟩
    · exact hle
    · -- behind `u` the closing parts could have run
      refine absurd ?_ (Node.not_exists_of_first_eq_none
        (hstops.none_before u (';' :: x) rfl (List.cons_ne_nil _ x)))
      exact Node.exists_mem_runs_cats_cons (Node.mem_runs_char.2 ⟨_, rfl, rfl⟩)
        (joins_iff_exists_mem_runs.1 hearlier)

/-- What the recognizer of a strict form captures. -/
theorem exists_isWork_of_recognize {name text w : List Char} (hf : f ≠ legacy) (hname : '%' ∉ name)
    (h : f.recognizer.recognize text (some name) = .ok (some w)) :
    ∃ before head opening rest,
      text = before ++ (name ++ (head ++ (opening ++ (w ++ ';' :: rest)))) ∧
      f.Opens before ∧ f.Names head ∧ Spells splittingPieces opening ∧ IsWork w rest := by
  obtain ⟨u, v, q, rfl, hfirst, hq⟩ :=
    Recognizer.exists_first_of_gapped (f.patternText_recognizer name) hname f.names_template h
  obtain ⟨m, hm, w', rest, hrest, hcaptured, hwork⟩ := exists_isWork_of_first hf hfirst
  obtain rfl : w' = w := Option.some.inj (hcaptured.symm.trans hq)
  obtain ⟨lead, head, m₂, hv, hlead, hnames, toGroup⟩ :=
    exists_of_mem_runs_front (u := u) Option.or_none hm
  obtain ⟨-, hsplitting, -⟩ := parts_of_ne_legacy hf
  rw [hsplitting] at toGroup
  obtain ⟨opening, r, hm₂, hopening, rfl⟩ := Node.mem_runs_pieces.1 toGroup
  obtain rfl : r = w' ++ ';' :: rest := hrest
  refine ⟨u ++ lead, head, opening, rest, ?_, hlead.opens, hnames, hopening, hwork⟩
  obtain rfl : v = _ := hv
  rw [hm₂, List.append_assoc]

end RoutineForm

/-- **The text of a plan is the work of a routine**, if one of the strict forms matches, which are
those of the first two recognizers: it is what a routine that is assigned to the name or declared
with it has between its splitting and its joining. -/
theorem Lookups.planText_isWork {script name : List Char} {index : ℕ} {recognizer : String}
    (hname : ∀ c ∈ name, nameClass.has c = true) (hindex : index < 2)
    (h : .tried .planText index recognizer true ∈ (standard.planText script name).trail) :
    ∃ f : RoutineForm, planRecognizers[index]? = some f.recognizer ∧
      ∃ w, (standard.planText script name).outcome = .ok w ∧
        ∃ before head opening rest,
          script = before ++ (name ++ (head ++ (opening ++ (w ++ ';' :: rest)))) ∧
          f.Opens before ∧ f.Names head ∧ Spells splittingPieces opening ∧ IsWork w rest := by
  have hpercent : '%' ∉ name := fun hmem ↦ absurd (hname _ hmem) (by decide)
  obtain ⟨r, w, hr, hcaptured, hout⟩ := Lookup.exists_of_matched h
  obtain rfl | rfl : index = 0 ∨ index = 1 := by omega
  · obtain rfl : planAssigned = r := Option.some.inj hr
    exact ⟨.assigned, rfl, w, hout,
      RoutineForm.exists_isWork_of_recognize (f := .assigned) nofun hpercent hcaptured⟩
  · obtain rfl : planDeclared = r := Option.some.inj hr
    exact ⟨.declared, rfl, w, hout,
      RoutineForm.exists_isWork_of_recognize (f := .declared) nofun hpercent hcaptured⟩

/-! ### A routine that joins twice -/

/-- A script with a routine whose name is longer, and one that joins twice. -/
def joinedTwiceScript : String :=
  "zXy=function(a)\x7ba=a.split(\"\");Zz.ab(a,1);return a.join(\"\")\x7d;" ++
    "Xy=function(b)\x7bb=b.split( \"\" );Qr.wR(b,3);;return b.join(\"\");return b.join(\"\")\x7d;"

/-- The characters of that script. -/
def joinedTwiceText : Spelled joinedTwiceScript :=
  .append (.of rfl) (.of rfl)

/-- The first joining does not close the routine, so it belongs to the work. -/
theorem Lookups.planText_isWork_joinedTwice :
    ∃ f : RoutineForm, planRecognizers[0]? = some f.recognizer ∧
      ∃ w, (standard.planText joinedTwiceScript.toList ['X', 'y']).outcome = .ok w ∧
        w = "Qr.wR(b,3);;return b.join(\"\")".toList ∧
        ∃ before head opening rest, joinedTwiceScript.toList =
            before ++ (['X', 'y'] ++ (head ++ (opening ++ (w ++ ';' :: rest)))) ∧
          f.Opens before ∧ f.Names head ∧ Spells splittingPieces opening ∧ IsWork w rest := by
  have hrun : standard.planText joinedTwiceText.chars ['X', 'y'] =
      ⟨[.decided (.tried .planText 0 planAssigned.name true)],
        .ok "Qr.wR(b,3);;return b.join(\"\")".toList⟩ := by
    refine Lookup.run_of_captured (r := planAssigned) ?_ _
    rw [Recognizer.recognize_of_gapped (planAssigned_patternText _) (by decide) rfl]
    decide +kernel
  have hname : ∀ c ∈ ['X', 'y'], nameClass.has c = true := forall_mem_of_all rfl
  rw [joinedTwiceText.toList_eq]
  obtain ⟨f, hf, w, hw, hscript⟩ := planText_isWork hname Nat.two_pos
    (by rw [hrun]; exact List.mem_singleton_self _)
  have hvalue : w = "Qr.wR(b,3);;return b.join(\"\")".toList := by
    rw [hrun] at hw
    exact (Except.ok.inj hw).symm
  exact ⟨f, hf, w, hw, hvalue, hscript⟩

end Unscramble

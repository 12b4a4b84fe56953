import Unscramble.Proofs.Plan

/-!
# A plan text says what it was written from

A plan text is a row of statements, with white space and blank statements wherever they may stand.
Each statement is a call, and may assign what the call returns. The search for the call in it does
not begin at the left end, so it has to be shown that no call begins in the assignment: a call
begins with a name and a full stop, and in front of the `=` there is no full stop.

## Main definitions

* `WrittenStatement`: a call with a number, perhaps behind an assignment.
* `WrittenPiece`: a statement or a blank.
* `WrittenPlan`: the pieces of a plan text.

## Main statements

* `CallParts.read_lead`: a call is found behind a text that leads up to it.
* `statements_text`: the statements of a plan text.
* `WrittenPlan.read_written`: a plan text is read as the calls that it was written from.
-/

namespace Unscramble

open Unscramble.Text Unscramble.Pattern

/-! ### What stands before a call -/

/-- A text that leads up to a call: it has no full stop and does not end within a name. -/
structure IsLead (lead : List Char) : Prop where
  notMem : '.' ∉ lead
  part_getLast : ∀ c ∈ lead.getLast?, partClass.has c = false

/-- A call begins with a name and a full stop. -/
theorem exists_of_mem_runs_callNodes {p q : Place} (h : q ∈ (Node.cats callNodes).runs p) :
    ∃ w rest, p.rest = w ++ '.' :: rest ∧ ∀ c ∈ w, partClass.has c = true := by
  rw [callNodes, Node.mem_runs_cats_cons] at h
  obtain ⟨m, hm, h⟩ := h
  obtain ⟨_, inObject, rfl⟩ := Node.mem_runs_group.1 hm
  obtain ⟨w, rest, hp, -, hw, rfl⟩ := Node.mem_runs_plus.1 inObject
  rw [Node.mem_runs_cats_cons] at h
  obtain ⟨stop, hstop, -⟩ := h
  obtain ⟨rest', hrest, -⟩ := Node.mem_runs_char.1 hstop
  exact ⟨w, rest', hp.trans (congrArg (w ++ ·) hrest), hw⟩

/-- No call begins in what leads up to another. -/
theorem notMem_runs_callNodes {lead u v s : List Char} (hlead : IsLead lead) (hv : lead = u ++ v)
    (hne : v ≠ []) {p q : Place} (hp : p.rest = v ++ s) : q ∉ (Node.cats callNodes).runs p := by
  intro h
  obtain ⟨w, rest, hrest, hw⟩ := exists_of_mem_runs_callNodes h
  have hstop : '.' ∉ v := fun hm ↦ hlead.notMem (hv ▸ List.mem_append_right u hm)
  -- the name would go on over the end of `v`, where there is no name
  have hstart : v <+: w := prefix_of_append_eq_append_cons (hp.symm.trans hrest) hstop
  have hlast : v.getLast hne ∈ lead.getLast? := by
    rw [hv, List.getLast?_append_of_ne_nil u hne, List.getLast?_eq_some_getLast hne]
    rfl
  have hpart := hw _ (hstart.subset (List.getLast_mem hne))
  rw [hlead.part_getLast _ hlast] at hpart
  cases hpart

/-- **A call is found behind a text that leads up to it**, whatever follows it. -/
theorem CallParts.read_lead {lead : List Char} (hlead : IsLead lead) (c : WrittenCall)
    (rest : List Char) :
    CallParts.read (lead ++ c.text rest) = .ok ⟨c.object.chars, c.helper.chars, c.digits.chars⟩ :=
  c.read_append_text rest fun _ _ huv hv _ _ hp ↦ notMem_runs_callNodes hlead huv hv hp

/-! ### Statements -/

/-- Any white space. -/
structure Blanks where
  chars : List Char
  isBlank_chars : ∀ c ∈ chars, isBlank c = true

/-- An assignment to a name, which stands before a call. -/
structure Assignment where
  target : WrittenName partClass.has
  before : Blanks
  after : Blanks

/-- A call with a number, perhaps behind an assignment. The number may have leading zeros, and there
may be white space around it, around the parameter and around the whole. -/
structure WrittenStatement where
  assignment : Option Assignment
  object : WrittenName partClass.has
  helper : WrittenName partClass.has
  parameter : WrittenName partClass.has
  number : Fin argumentLimit
  zeros : ℕ
  spaces : Fin 4 → Blanks
  before : Blanks
  after : Blanks

namespace Assignment

/-- The written form of an assignment, up to the call. -/
def text (a : Assignment) : List Char :=
  a.target.chars ++ (a.before.chars ++ '=' :: a.after.chars)

theorem ne_of_mem_text {a : Assignment} {x c : Char} (h : x ∈ a.text)
    (hpart : partClass.has c = false) (hblank : isBlank c = false) (hc : c ≠ '=') : x ≠ c := by
  rintro rfl
  simp only [text, List.mem_append, List.mem_cons] at h
  rcases h with h | h | h | h
  · rw [a.target.all_has x h] at hpart
    cases hpart
  · rw [a.before.isBlank_chars x h] at hblank
    cases hblank
  · exact hc h
  · rw [a.after.isBlank_chars x h] at hblank
    cases hblank

theorem isLead_text (a : Assignment) : IsLead a.text where
  notMem h := ne_of_mem_text h (by decide) (by decide) (by decide) rfl
  part_getLast c hc := by
    have hcons : '=' :: a.after.chars ≠ [] := List.cons_ne_nil _ _
    rw [text, ← List.append_assoc, List.getLast?_append_of_ne_nil _ hcons] at hc
    rcases List.mem_cons.1 (List.mem_of_mem_getLast? hc) with rfl | hc
    · decide
    · exact part_eq_false_of_isBlank (a.after.isBlank_chars c hc)

end Assignment

namespace WrittenStatement

variable (s : WrittenStatement)

/-- The digits of the number. -/
def digits : List Char :=
  List.replicate s.zeros '0' ++ Nat.toDigits 10 s.number

theorem isDigit_of_mem_digits {c : Char} (h : c ∈ s.digits) : c.isDigit = true := by
  rw [digits, List.mem_append] at h
  rcases h with h | h
  · rw [List.eq_of_mem_replicate h]
    rfl
  · exact Nat.isDigit_of_mem_toDigits (by decide) (by decide) h

theorem digits_ne_nil : s.digits ≠ [] :=
  List.append_ne_nil_of_right_ne_nil _ Nat.toDigits_ne_nil

/-- Leading zeros do not change a number. -/
theorem argument?_digits : argument? s.digits = some (s.number : ℕ) := by
  have hall : s.digits.all Char.isDigit = true :=
    List.all_eq_true.2 fun c hc ↦ s.isDigit_of_mem_digits hc
  have hne : s.digits.isEmpty = false := List.isEmpty_eq_false_iff.2 s.digits_ne_nil
  have hvalue : Nat.ofDigitChars 10 s.digits 0 = s.number := by
    rw [digits, Nat.ofDigitChars_append, Nat.ofDigitChars_replicate_zero, Nat.mul_zero,
      Nat.ofDigitChars_ten_toDigits]
  rw [argument?, hall, hne, if_pos (by decide)]
  show (if Nat.ofDigitChars 10 s.digits 0 < argumentLimit then _ else _) = _
  rw [hvalue, if_pos s.number.isLt]

/-- The call as it is written. -/
def call : WrittenCall where
  object := s.object
  helper := s.helper
  token := s.parameter
  digits := ⟨s.digits, s.digits_ne_nil, fun _ hc ↦ isDigit_of_isDigit (s.isDigit_of_mem_digits hc)⟩
  spaces i := (s.spaces i).chars
  isBlank_spaces i := (s.spaces i).isBlank_chars

/-- What stands before the call. -/
def lead : List Char :=
  (s.assignment.map Assignment.text).getD []

theorem isLead_lead : IsLead s.lead := by
  rw [lead]
  cases s.assignment with
  | none => exact ⟨List.not_mem_nil, by rintro c ⟨⟩⟩
  | some a => exact a.isLead_text

/-- The statement without the white space around it. -/
def body : List Char :=
  s.lead ++ s.call.text []

/-- The written form of a statement. -/
def text : List Char :=
  s.before.chars ++ (s.body ++ s.after.chars)

/-- The step that the statement is written for. -/
def step : Call :=
  ⟨String.ofList s.helper.chars, s.number⟩

/-- The call of a statement is found and read. -/
theorem parts_body :
    CallParts.read s.body = .ok ⟨s.object.chars, s.helper.chars, s.digits⟩ :=
  CallParts.read_lead s.isLead_lead s.call []

theorem read_body : Call.read s.body = .ok s.step :=
  Call.read_of_argument s.parts_body s.argument?_digits

/-! ### Where a statement begins and ends -/

/-- A statement begins with a name. -/
theorem part_head?_body : ∀ c ∈ s.body.head?, partClass.has c = true := by
  intro c hc
  rw [body, lead] at hc
  cases hassignment : s.assignment with
  | none =>
    rw [hassignment] at hc
    have hobject : c ∈ (s.object.chars ++ _).head? := hc
    exact s.object.all_has c (Node.mem_of_mem_head?_append s.object.ne_nil hobject)
  | some a =>
    rw [hassignment, Option.map_some, Option.getD_some, Assignment.text, List.append_assoc] at hc
    exact a.target.all_has c (Node.mem_of_mem_head?_append a.target.ne_nil hc)

theorem getLast?_body : s.body.getLast? = some ')' := by
  simp [body, call, WrittenCall.text, List.getLast?_cons]

/-- The white space around a statement is trimmed off. -/
theorem trim_text : trim s.text = s.body := by
  have hbefore : s.before.chars.all isBlank = true := List.all_eq_true.2 s.before.isBlank_chars
  have hafter : s.after.chars.all isBlank = true := List.all_eq_true.2 s.after.isBlank_chars
  have hhead : ∀ c ∈ s.body.head?, isBlank c = false := fun c hc ↦
    isBlank_eq_false_of_part (s.part_head?_body c hc)
  have hlast : ∀ c ∈ s.body.getLast?, isBlank c = false := by
    rw [s.getLast?_body]
    rintro c ⟨⟩
    decide
  rw [text, trim_append_of_all_isBlank hbefore hafter, trim_eq_self hhead hlast]

theorem body_ne_nil : s.body ≠ [] := by
  intro h
  have hlast := s.getLast?_body
  rw [h] at hlast
  cases hlast

theorem notMem_text : ';' ∉ s.text := by
  have hname (n : WrittenName partClass.has) : ';' ∉ n.chars := fun h ↦ by
    have := n.all_has _ h
    revert this
    decide
  have hblanks (b : Blanks) : ';' ∉ b.chars := fun h ↦ by
    have := b.isBlank_chars _ h
    revert this
    decide
  have hdigits : ';' ∉ s.digits := fun h ↦ by
    have := s.isDigit_of_mem_digits h
    revert this
    decide
  have hlead : ';' ∉ s.lead := by
    rw [lead]
    cases s.assignment with
    | none => exact List.not_mem_nil
    | some a => simp [Assignment.text, hname, hblanks]
  simp [text, body, call, WrittenCall.text, hname, hblanks, hdigits, hlead]

end WrittenStatement

/-! ### Plan texts -/

/-- What stands between two semicolons of a plan text. -/
inductive WrittenPiece
  /-- White space, or nothing. -/
  | blank (b : Blanks)
  /-- A statement. -/
  | statement (s : WrittenStatement)

namespace WrittenPiece

/-- The written form of a piece. -/
def text : WrittenPiece → List Char
  | blank b => b.chars
  | statement s => s.text

/-- The statement of a piece, if it is no blank. -/
def statement? : WrittenPiece → Option WrittenStatement
  | blank _ => none
  | statement s => some s

theorem notMem_text (p : WrittenPiece) : ';' ∉ p.text := by
  cases p with
  | blank b =>
    intro h
    have := b.isBlank_chars _ h
    revert this
    decide
  | statement s => exact s.notMem_text

/-- The statements of pieces are found between the blanks. -/
theorem filter_trim_text (ps : List WrittenPiece) :
    ((ps.map text).map trim).filter (fun s ↦ !s.isEmpty) =
      (ps.filterMap statement?).map WrittenStatement.body := by
  induction ps with
  | nil => rfl
  | cons p ps ih =>
    cases p with
    | blank b =>
      have hblank : trim b.chars = [] := trim_of_all_isBlank (List.all_eq_true.2 b.isBlank_chars)
      rw [List.map_cons, List.map_cons, text, hblank, List.filter_cons_of_neg (by simp), ih]
      rfl
    | statement s =>
      rw [List.map_cons, List.map_cons, text, s.trim_text,
        List.filter_cons_of_pos (by simp [s.body_ne_nil]), ih]
      rfl

end WrittenPiece

/-- A plan text in its pieces, of which at least one is a statement. -/
structure WrittenPlan where
  pieces : List WrittenPiece
  filterMap_ne_nil : pieces.filterMap WrittenPiece.statement? ≠ []

namespace WrittenPlan

variable (p : WrittenPlan)

/-- The statements of a plan text. -/
def statements : List WrittenStatement :=
  p.pieces.filterMap WrittenPiece.statement?

theorem statements_ne_nil : p.statements ≠ [] :=
  p.filterMap_ne_nil

/-- The written form of a plan. -/
def text : List Char :=
  [';'].intercalate (p.pieces.map WrittenPiece.text)

/-- The statement that comes first. -/
def head : WrittenStatement :=
  p.statements.head p.statements_ne_nil

theorem statements_text :
    Unscramble.statements p.text = p.statements.map WrittenStatement.body := by
  have hne : p.pieces.map WrittenPiece.text ≠ [] := by
    intro h
    apply p.filterMap_ne_nil
    rw [List.map_eq_nil_iff.1 h]
    rfl
  have hnotMem : ∀ s ∈ p.pieces.map WrittenPiece.text, ';' ∉ s := by
    intro s hs
    obtain ⟨piece, -, rfl⟩ := List.mem_map.1 hs
    exact piece.notMem_text
  rw [Unscramble.statements, text, pieces_intercalate hne hnotMem, WrittenPiece.filter_trim_text]
  rfl

theorem mapM_read (ss : List WrittenStatement) :
    (ss.map WrittenStatement.body).mapM Call.read = .ok (ss.map WrittenStatement.step) := by
  induction ss with
  | nil => rfl
  | cons s ss ih =>
    rw [List.map_cons, List.mapM_cons, s.read_body, ih]
    rfl

/-- **A plan text is read as what it was written from**: its steps are those of the statements in
order, as many as there are, and the object is that of the first statement. -/
theorem read_written :
    (∃ plan, Plan.read p.text = .ok plan ∧
      plan.steps = p.statements.map WrittenStatement.step ∧
      plan.steps.length = p.statements.length) ∧
      objectName p.text = .ok p.head.object.chars := by
  have hne : p.statements.map WrittenStatement.step ≠ [] := by
    rw [Ne, List.map_eq_nil_iff]
    exact p.statements_ne_nil
  have hread := Plan.read_of_statements hne
    ((congrArg (List.mapM Call.read) p.statements_text).trans (mapM_read p.statements))
  refine ⟨⟨_, hread, rfl, List.length_map _⟩, ?_⟩
  have hstatements : Unscramble.statements p.text =
      p.head.body :: p.statements.tail.map WrittenStatement.body := by
    rw [statements_text, ← List.map_cons, head, List.cons_head_tail]
  rw [objectName, hstatements]
  exact congrArg (Except.map CallParts.object) p.head.parts_body

end WrittenPlan

end Unscramble

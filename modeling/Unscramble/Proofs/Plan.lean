import Unscramble.Plan
import Unscramble.Proofs.OneByOne
import Unscramble.Proofs.Pattern.Classes
import Unscramble.Proofs.Pattern.Search
import Unscramble.Proofs.Text.Spelled
import Unscramble.Proofs.Text.Split

/-!
# How a plan is read

A plan text is refused in three ways: nothing but blanks stands in it, a statement has no call in
it, or the number of a call is none. Only the first of these looks like a lookup that found nothing.
Where a plan is read, its first statement has a call, so the object is known too.

## Main definitions

* `WrittenCall`: a call as it is written.

## Main statements

* `WrittenCall.read_append_text`: a written call is found and read, if none begins before it.
* `Plan.read_eq_error`: the failures of reading a plan.
* `exists_objectName`: a plan that is read names an object.
-/

namespace Unscramble

open Unscramble.Text Unscramble.Pattern
open Pattern.Node (plus)

/-! ### Calls -/

/-- The characters of an object's or a helper's name. -/
def partClass : CharClass :=
  .union .word (.only '$')

/-- The form of a call, which captures the object, the helper and the number. -/
def callNodes : List Node :=
  [.group 1 (plus partClass), .char '.', .group 2 (plus partClass), .char '(', Node.blanks,
    plus partClass, Node.blanks, .char ',', Node.blanks, .group 3 (plus .digit), Node.blanks,
    .char ')']

/-- The template of a call. -/
def callText : Spelled callTemplate :=
  .of rfl

set_option maxRecDepth 4000 in
theorem callPattern_eq : callPattern = .ok ⟨Node.cats callNodes, []⟩ := by
  rw [callPattern, callText.toList_eq]
  rfl

/-! ### A call as it is written -/

/-- A name of certain characters, of which there is at least one. -/
structure WrittenName (p : Char → Bool) where
  chars : List Char
  ne_nil : chars ≠ []
  all_has : ∀ c ∈ chars, p c = true

/-- What a call is written as: names, the number and any white space around the last two. -/
structure WrittenCall where
  object : WrittenName partClass.has
  helper : WrittenName partClass.has
  token : WrittenName partClass.has
  digits : WrittenName isDigit
  spaces : Fin 4 → List Char
  isBlank_spaces : ∀ i, ∀ x ∈ spaces i, isBlank x = true

/-- No white space anywhere is white space only. -/
theorem isBlank_of_mem_nil (_ : Fin 4) (c : Char) (h : c ∈ []) : isBlank c = true :=
  absurd h List.not_mem_nil

theorem isBlank_eq_false_of_part {c : Char} (h : partClass.has c = true) : isBlank c = false := by
  simp only [partClass, CharClass.has, CharClass.has_only, Bool.or_eq_true, beq_iff_eq] at h
  rcases h with h | rfl
  · exact isBlank_eq_false_of_isWord h
  · rfl

theorem part_eq_false_of_isBlank {c : Char} (h : isBlank c = true) : partClass.has c = false := by
  rw [Bool.eq_false_iff]
  intro hc
  rw [isBlank_eq_false_of_part hc] at h
  cases h

namespace WrittenCall

variable (c : WrittenCall) (rest : List Char)

/-- The call, with what follows it. -/
def text : List Char :=
  c.object.chars ++ '.' :: (c.helper.chars ++ '(' :: (c.spaces 0 ++ (c.token.chars ++
    (c.spaces 1 ++ ',' :: (c.spaces 2 ++ (c.digits.chars ++ (c.spaces 3 ++ ')' :: rest)))))))

/-- A match at the call captures its parts. -/
theorem first_callNodes {place : Place} (hrest : place.rest = c.text rest) :
    ∃ q, (Node.cats callNodes).first place some = some q ∧
      q.captured? 1 = some c.object.chars ∧ q.captured? 2 = some c.helper.chars ∧
      q.captured? 3 = some c.digits.chars := by
  have hspace := c.isBlank_spaces
  rw [text] at hrest
  apply Node.exists_of_first
  rw [callNodes, Node.first_cats_cons, Node.first_group]
  refine Node.first_plus hrest c.object.ne_nil c.object.all_has (by rintro x ⟨⟩; decide) ?_
  rw [Node.first_cats_cons, Node.first_char rfl, Node.first_cats_cons, Node.first_group]
  refine Node.first_plus rfl c.helper.ne_nil c.helper.all_has (by rintro x ⟨⟩; decide) ?_
  rw [Node.first_cats_cons, Node.first_char rfl, Node.first_cats_cons]
  refine Node.first_many_greedy rfl (hspace 0) (fun x hx ↦ isBlank_eq_false_of_part
    (c.token.all_has x (Node.mem_of_mem_head?_append c.token.ne_nil hx))) ?_
  rw [Node.first_cats_cons]
  refine Node.first_plus rfl c.token.ne_nil c.token.all_has ?_ ?_
  -- a name ends at white space or at the comma
  · intro x hx
    rcases Node.mem_head?_append_cons hx with hx | rfl
    · exact part_eq_false_of_isBlank (hspace 1 x hx)
    · decide
  rw [Node.first_cats_cons]
  refine Node.first_many_greedy rfl (hspace 1) (by rintro x ⟨⟩; decide) ?_
  rw [Node.first_cats_cons, Node.first_char rfl, Node.first_cats_cons]
  refine Node.first_many_greedy rfl (hspace 2) (fun x hx ↦ isBlank_eq_false_of_isDigit
    (c.digits.all_has x (Node.mem_of_mem_head?_append c.digits.ne_nil hx))) ?_
  rw [Node.first_cats_cons, Node.first_group]
  refine Node.first_plus rfl c.digits.ne_nil c.digits.all_has ?_ ?_
  -- a number ends at white space or at the parenthesis
  · intro x hx
    rcases Node.mem_head?_append_cons hx with hx | rfl
    · exact isDigit_eq_false_of_isBlank (hspace 3 x hx)
    · decide
  rw [Node.first_cats_cons]
  refine Node.first_many_greedy rfl (hspace 3) (by rintro x ⟨⟩; decide) ?_
  rw [Node.first_cats_cons, Node.first_char rfl, Node.first_cats_nil]
  refine congrArg some (eq_true ⟨?_, ?_, ?_⟩)
  · simp only [Place.captured?_after, Place.captured?_close_of_ne (show 3 ≠ 1 by decide),
      Place.captured?_close_of_ne (show 2 ≠ 1 by decide)]
    exact Place.captured?_close_self hrest 1 _ rfl
  · simp only [Place.captured?_after, Place.captured?_close_of_ne (show 3 ≠ 2 by decide)]
    exact Place.captured?_close_self rfl 2 _ rfl
  · rw [Place.captured?_after, Place.captured?_after]
    exact Place.captured?_close_self rfl 3 _ rfl

/-- **The parts of a statement** are those of the call in it that no other call begins before,
whatever follows that call. -/
theorem read_append_text {before : List Char}
    (h : ∀ u v, before = u ++ v → v ≠ [] → ∀ p q : Place, p.rest = v ++ c.text rest →
      q ∉ (Node.cats callNodes).runs p) :
    CallParts.read (before ++ c.text rest) =
      .ok ⟨c.object.chars, c.helper.chars, c.digits.chars⟩ := by
  have hrest : (⟨before.getLast?.or none, c.text rest, 0 + before.length, [], []⟩ : Place).rest =
      c.text rest := rfl
  obtain ⟨q, hfirst, hobject, hhelper, hdigits⟩ := c.first_callNodes rest hrest
  have hfind : (Node.cats callNodes).search none 0 (before ++ c.text rest) = some q :=
    (Node.search_append fun u v huv hv q ↦ h u v huv hv _ q rfl).trans (Node.search_of_first hfirst)
  unfold CallParts.read
  simp only [callPattern_eq, Pattern.find?, hfind, Option.bind_eq_bind, Option.bind_some, hobject,
    hhelper, hdigits]
  rfl

/-- A call at the beginning of a statement is found. -/
theorem read_text :
    CallParts.read (c.text rest) = .ok ⟨c.object.chars, c.helper.chars, c.digits.chars⟩ := by
  show CallParts.read ([] ++ c.text rest) = _
  refine c.read_append_text rest fun u v huv hv ↦ ?_
  exact absurd (List.append_eq_nil_iff.1 huv.symm).2 hv

end WrittenCall

theorem argument?_toDigits {n : ℕ} (h : n < argumentLimit) :
    argument? (Nat.toDigits 10 n) = some n := by
  have hall : (Nat.toDigits 10 n).all Char.isDigit = true :=
    List.all_eq_true.2 fun c hc ↦ Nat.isDigit_of_mem_toDigits (by decide) (by decide) hc
  have hne : (Nat.toDigits 10 n).isEmpty = false :=
    List.isEmpty_eq_false_iff.2 Nat.toDigits_ne_nil
  rw [argument?, hall, hne, if_pos (by decide)]
  show (if Nat.ofDigitChars 10 (Nat.toDigits 10 n) 0 < argumentLimit then _ else _) = _
  rw [Nat.ofDigitChars_ten_toDigits, if_pos h]

/-- A statement has no call in it, or it has one. -/
theorem CallParts.read_eq_error {s : List Char} {e : Failure} (h : CallParts.read s = .error e) :
    e = .malformed .tooFewFields (String.ofList s) := by
  unfold CallParts.read at h
  simp only [callPattern_eq] at h
  split at h
  · cases h
  · exact (Except.error.inj h).symm

theorem Call.read_of_parts {s : List Char} {parts : CallParts}
    (h : CallParts.read s = .ok parts) :
    Call.read s =
      match argument? parts.digits with
      | some n => .ok ⟨String.ofList parts.helper, n⟩
      | none => .error (.malformed .notAnInteger (String.ofList s)) := by
  rw [Call.read, h]
  rfl

theorem Call.read_of_argument {s : List Char} {parts : CallParts} {n : ℕ}
    (h : CallParts.read s = .ok parts) (hn : argument? parts.digits = some n) :
    Call.read s = .ok ⟨String.ofList parts.helper, n⟩ := by
  rw [Call.read_of_parts h, hn]

/-- What is wrong with a statement that is no call is told with the whole statement. -/
theorem Call.read_eq_error {s : List Char} {e : Failure} (h : Call.read s = .error e) :
    ∃ what, e = .malformed what (String.ofList s) := by
  cases hparts : CallParts.read s with
  | error e' =>
    rw [Call.read, hparts] at h
    obtain rfl : e' = e := Except.error.inj h
    exact ⟨.tooFewFields, CallParts.read_eq_error hparts⟩
  | ok parts =>
    rw [Call.read_of_parts hparts] at h
    split at h
    · cases h
    · exact ⟨.notAnInteger, (Except.error.inj h).symm⟩

/-! ### Plans -/

/-- Texts without a semicolon and without white space around them are the statements of what they
are joined to. -/
theorem statements_intercalate {ss : List (List Char)} (hne : ss ≠ [])
    (h : ∀ s ∈ ss, ';' ∉ s ∧ trim s = s ∧ s ≠ []) : statements ([';'].intercalate ss) = ss := by
  rw [statements, pieces_intercalate hne fun s hs ↦ (h s hs).1]
  have hmap : ss.map trim = ss :=
    (List.map_congr_left fun s hs ↦ (h s hs).2.1).trans (List.map_id ss)
  rw [hmap, List.filter_eq_self]
  intro s hs
  rw [List.isEmpty_eq_false_iff.2 (h s hs).2.2]
  rfl

/-- The statements of a text are those on the two sides of any semicolon. -/
theorem statements_append_semicolon (left right : List Char) :
    statements (left ++ ';' :: right) = statements left ++ statements right := by
  rw [statements, pieces_append_sep, List.map_append, List.filter_append]
  rfl

/-- The plan of a text whose statements are calls. -/
theorem Plan.read_of_statements {text : List Char} {cs : List Call} (hne : cs ≠ [])
    (h : (statements text).mapM Call.read = .ok cs) : Plan.read text = .ok ⟨cs, hne⟩ := by
  rw [Plan.read, h]
  show Plan.ofList cs = _
  rw [Plan.ofList, dif_neg hne]

/-- A text without statements is cut into blanks by its semicolons. -/
theorem statements_eq_nil_iff {text : List Char} :
    statements text = [] ↔ ∀ s ∈ pieces (· == ';') text, s.all isBlank = true := by
  rw [statements, List.filter_eq_nil_iff, List.forall_mem_map]
  refine forall₂_congr fun s _ ↦ ?_
  rw [← trim_eq_nil_iff]
  cases trim s <;> simp

theorem Plan.read_of_statements_eq_nil {text : List Char} (h : statements text = []) :
    Plan.read text = .error (.notFound .planText) := by
  rw [Plan.read, h]
  rfl

/-- The steps of a plan are its statements, read one by one. -/
theorem Plan.mapM_of_read {text : List Char} {plan : Plan} (h : Plan.read text = .ok plan) :
    (statements text).mapM Call.read = .ok plan.steps := by
  rw [Plan.read] at h
  rcases hsteps : (statements text).mapM Call.read with e | steps
  · rw [hsteps] at h
    cases h
  · rw [hsteps] at h
    replace h : Plan.ofList steps = .ok plan := h
    rw [Plan.ofList] at h
    split at h
    · cases h
    · obtain rfl := Except.ok.inj h
      rfl

/-- A text with statements is refused exactly if one of them is. -/
theorem Plan.read_eq_error_iff_mapM {text : List Char} (hne : statements text ≠ []) {e : Failure} :
    Plan.read text = .error e ↔ (statements text).mapM Call.read = .error e := by
  rcases hsteps : (statements text).mapM Call.read with e' | steps
  · rw [Plan.read, hsteps]
    show Except.error e' = .error e ↔ _
    rw [Except.error.injEq, Except.error.injEq]
  · -- there are as many calls as statements, so the plan is not empty
    rw [read_of_statements (ne_nil_of_forall₂ (mapM_eq_ok_iff.1 hsteps) hne) hsteps]
    exact ⟨nofun, nofun⟩

/-- **The failures of reading a plan**: there is no statement, or one of them is no call. -/
theorem Plan.read_eq_error {text : List Char} {e : Failure} (h : Plan.read text = .error e) :
    (e = .notFound .planText ∧ statements text = []) ∨
      ∃ what fragment, e = .malformed what fragment := by
  by_cases hs : statements text = []
  · rw [read_of_statements_eq_nil hs] at h
    exact .inl ⟨(Except.error.inj h).symm, hs⟩
  · obtain ⟨-, s, -, -, -, hread⟩ := mapM_eq_error_iff.1 ((read_eq_error_iff_mapM hs).1 h)
    obtain ⟨what, he⟩ := Call.read_eq_error hread
    exact .inr ⟨what, _, he⟩

/-- **A plan that is read names an object**: its first statement is a call. -/
theorem exists_objectName {text : List Char} {plan : Plan} (h : Plan.read text = .ok plan) :
    ∃ object, objectName text = .ok object := by
  rw [objectName]
  cases hs : statements text with
  | nil =>
    rw [Plan.read_of_statements_eq_nil hs] at h
    cases h
  | cons s ss =>
    cases hp : CallParts.read s with
    | ok parts => exact ⟨parts.object, congrArg (Except.map CallParts.object) hp⟩
    | error e =>
      rw [Plan.read, hs, List.mapM_cons, Call.read, hp] at h
      cases h

end Unscramble

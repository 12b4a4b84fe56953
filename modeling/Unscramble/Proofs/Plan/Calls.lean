import Mathlib.Algebra.BigOperators.Group.List.Basic
import Mathlib.Data.Fin.VecNotation
import Mathlib.Data.List.Forall2
import Unscramble.Proofs.Plan

/-!
# The calls in a statement

A statement is searched for a call, and the first that is found is its step. What stands in front of
the call is passed over, and so is what follows it, even if there are more calls in it. A plan is
therefore complete only if no statement has a second call, which nothing in the reading of plans
makes sure of.

The calls of a text are listed without the search: a text holds a call if it has the written form of
one somewhere, and holds the calls that are found one after the other from left to right.

## Main definitions

* `CallsIn`: the calls of a text from left to right, none overlapping another.

## Main statements

* `exists_call_of_mem_runs`: what the pattern of a call matches is a written call.
* `CallsIn.read_eq`: the parts of a statement are those of its first call.
* `Plan.steps_of_read`: a plan has one step for each statement, which is the first call in it, and
  so it has all calls exactly if each statement has one only.
-/

namespace Unscramble

open Unscramble.Text Unscramble.Pattern

/-! ### The pattern and the written form -/

/-- **What the pattern of a call matches is a written call**, and the match ends behind it. -/
theorem exists_call_of_mem_runs {p q : Place} (h : q ∈ (Node.cats callNodes).runs p) :
    ∃ c : WrittenCall, p.rest = c.text q.rest := by
  simp only [callNodes, Node.mem_runs_cats_cons] at h
  obtain ⟨_, toObject, _, toDot, _, toHelper, _, toOpen, _, toSpace₀, _, toToken, _, toSpace₁, _,
    toComma, _, toSpace₂, _, toDigits, _, toSpace₃, _, toClose, toEnd⟩ := h
  obtain ⟨_, inObject, rfl⟩ := Node.mem_runs_group.1 toObject
  obtain ⟨object, r₁, hp, object_ne_nil, hobject, rfl⟩ := Node.mem_runs_plus.1 inObject
  obtain ⟨r₂, hr₁, rfl⟩ := Node.mem_runs_char.1 toDot
  obtain ⟨_, inHelper, rfl⟩ := Node.mem_runs_group.1 toHelper
  obtain ⟨helper, r₃, hr₂, helper_ne_nil, hhelper, rfl⟩ := Node.mem_runs_plus.1 inHelper
  obtain ⟨r₄, hr₃, rfl⟩ := Node.mem_runs_char.1 toOpen
  obtain ⟨space₀, r₅, hr₄, hspace₀, rfl⟩ := Node.mem_runs_many.1 toSpace₀
  obtain ⟨token, r₆, hr₅, token_ne_nil, htoken, rfl⟩ := Node.mem_runs_plus.1 toToken
  obtain ⟨space₁, r₇, hr₆, hspace₁, rfl⟩ := Node.mem_runs_many.1 toSpace₁
  obtain ⟨r₈, hr₇, rfl⟩ := Node.mem_runs_char.1 toComma
  obtain ⟨space₂, r₉, hr₈, hspace₂, rfl⟩ := Node.mem_runs_many.1 toSpace₂
  obtain ⟨_, inDigits, rfl⟩ := Node.mem_runs_group.1 toDigits
  obtain ⟨digits, r₁₀, hr₉, digits_ne_nil, hdigits, rfl⟩ := Node.mem_runs_plus.1 inDigits
  obtain ⟨space₃, r₁₁, hr₁₀, hspace₃, rfl⟩ := Node.mem_runs_many.1 toSpace₃
  obtain ⟨r₁₂, hr₁₁, rfl⟩ := Node.mem_runs_char.1 toClose
  obtain rfl := List.mem_singleton.1 toEnd
  -- each part leaves behind what the next one begins with
  obtain rfl : r₁ = '.' :: r₂ := hr₁
  obtain rfl : r₂ = helper ++ r₃ := hr₂
  obtain rfl : r₃ = '(' :: r₄ := hr₃
  obtain rfl : r₄ = space₀ ++ r₅ := hr₄
  obtain rfl : r₅ = token ++ r₆ := hr₅
  obtain rfl : r₆ = space₁ ++ r₇ := hr₆
  obtain rfl : r₇ = ',' :: r₈ := hr₇
  obtain rfl : r₈ = space₂ ++ r₉ := hr₈
  obtain rfl : r₉ = digits ++ r₁₀ := hr₉
  obtain rfl : r₁₀ = space₃ ++ r₁₁ := hr₁₀
  obtain rfl : r₁₁ = ')' :: r₁₂ := hr₁₁
  have hspaces : ∀ i, ∀ x ∈ ![space₀, space₁, space₂, space₃] i, isBlank x = true :=
    Fin.cases hspace₀ (Fin.cases hspace₁ (Fin.cases hspace₂ (Fin.cases hspace₃ fun i ↦ i.elim0)))
  exact ⟨⟨⟨object, object_ne_nil, hobject⟩, ⟨helper, helper_ne_nil, hhelper⟩,
    ⟨token, token_ne_nil, htoken⟩, ⟨digits, digits_ne_nil, hdigits⟩,
    ![space₀, space₁, space₂, space₃], hspaces⟩, hp⟩

/-- A written call is a text of its own, and what follows it. -/
theorem WrittenCall.length_lt_text (c : WrittenCall) (rest : List Char) :
    rest.length < (c.text rest).length := by
  simp only [text, List.length_append, List.length_cons]
  omega

/-- A call begins with a name. -/
theorem WrittenCall.part_head?_text (c : WrittenCall) (rest : List Char) :
    ∀ x ∈ (c.text rest).head?, partClass.has x = true :=
  fun x hx ↦ c.object.all_has x (Node.mem_of_mem_head?_append c.object.ne_nil hx)

/-! ### The calls of a text -/

/-- No call begins within `before`, if `rest` follows it. -/
def NoCallWithin (before rest : List Char) : Prop :=
  ∀ u v (c : WrittenCall) behind, before = u ++ v → v ≠ [] → v ++ rest ≠ c.text behind

/-- The calls of a text from left to right: the leftmost, and then those behind it. -/
inductive CallsIn : List Char → List WrittenCall → Prop
  | nil {s : List Char} (h : NoCallWithin s []) : CallsIn s []
  | cons {before : List Char} {c : WrittenCall} {rest : List Char} {cs : List WrittenCall}
      (h : NoCallWithin before (c.text rest)) (later : CallsIn rest cs) :
      CallsIn (before ++ c.text rest) (c :: cs)

/-- If a call stands somewhere in a text, then so does a leftmost one. -/
theorem exists_noCallWithin {s : List Char}
    (h : ∃ before, ∃ c : WrittenCall, ∃ rest, s = before ++ c.text rest) :
    ∃ before, ∃ c : WrittenCall, ∃ rest, s = before ++ c.text rest ∧
      NoCallWithin before (c.text rest) := by
  classical
  have hlength : ∃ n before, before.length = n ∧ ∃ c : WrittenCall, ∃ rest,
      s = before ++ c.text rest :=
    let ⟨before, hbefore⟩ := h
    ⟨_, before, rfl, hbefore⟩
  obtain ⟨before, hn, c, rest, hs⟩ := Nat.find_spec hlength
  refine ⟨before, c, rest, hs, fun u v d behind huv hv hd ↦ ?_⟩
  -- the call `d` would begin further left
  have hleast : Nat.find hlength ≤ u.length :=
    Nat.find_le ⟨u, rfl, d, behind, by rw [hs, huv, List.append_assoc, hd]⟩
  have hlt : u.length < before.length := by
    rw [huv, List.length_append]
    exact Nat.lt_add_of_pos_right (List.length_pos_of_ne_nil hv)
  omega

/-- **Every text has its calls**: there may be none. -/
theorem exists_callsIn (s : List Char) : ∃ cs, CallsIn s cs := by
  by_cases h : ∃ before, ∃ c : WrittenCall, ∃ rest, s = before ++ c.text rest
  · obtain ⟨before, c, rest, rfl, hleft⟩ := exists_noCallWithin h
    obtain ⟨cs, hcs⟩ := exists_callsIn rest
    exact ⟨c :: cs, .cons hleft hcs⟩
  · refine ⟨[], .nil fun u v c behind huv _ hc ↦ h ⟨u, c, behind, ?_⟩⟩
    rw [huv, ← hc, List.append_nil]
termination_by s.length
decreasing_by
  subst_vars
  rw [List.length_append]
  exact Nat.lt_add_left _ (c.length_lt_text rest)

/-- A search passes over a text in which no call begins. -/
theorem search_callNodes_of_noCallWithin {before rest : List Char} (h : NoCallWithin before rest) :
    (Node.cats callNodes).search none 0 (before ++ rest) =
      (Node.cats callNodes).search (before.getLast?.or none) (0 + before.length) rest := by
  refine Node.search_append fun u v huv hv q hq ↦ ?_
  obtain ⟨c, hc⟩ := exists_call_of_mem_runs hq
  exact h u v c q.rest huv hv hc

/-- Nothing is matched at the end of a text. -/
theorem search_callNodes_nil (last : Option Char) (offset : ℕ) :
    (Node.cats callNodes).search last offset [] = none := by
  have hruns : (Node.cats callNodes).runs ⟨last, [], offset, [], []⟩ = [] := by
    refine List.eq_nil_iff_forall_not_mem.2 fun q hq ↦ ?_
    obtain ⟨c, hc⟩ := exists_call_of_mem_runs hq
    obtain ⟨x, xs, hobject⟩ := List.exists_cons_of_ne_nil c.object.ne_nil
    rw [WrittenCall.text, hobject] at hc
    cases hc
  rw [Node.search_nil, hruns]
  rfl

namespace CallsIn

variable {s : List Char} {c : WrittenCall} {cs : List WrittenCall}

/-- A statement without a call is refused. -/
theorem read_eq_error (h : CallsIn s []) :
    CallParts.read s = .error (.malformed .tooFewFields (String.ofList s)) := by
  cases h with
  | nil h =>
    have hsearch := search_callNodes_of_noCallWithin h
    rw [List.append_nil, search_callNodes_nil] at hsearch
    unfold CallParts.read
    simp only [callPattern_eq, Pattern.find?, hsearch]
    rfl

/-- **The parts of a statement are those of its first call**, whatever other calls are in it. -/
theorem read_eq (h : CallsIn s (c :: cs)) :
    CallParts.read s = .ok ⟨c.object.chars, c.helper.chars, c.digits.chars⟩ := by
  cases h with
  | cons h later =>
    refine c.read_append_text _ fun u v huv hv p q hp hq ↦ ?_
    obtain ⟨d, hd⟩ := exists_call_of_mem_runs hq
    exact h u v d q.rest huv hv (hp.symm.trans hd)

end CallsIn

/-! ### The steps of a plan -/

/-- A call is the step that it is written for. -/
def WrittenCall.Is (c : WrittenCall) (step : Call) : Prop :=
  step.helper = String.ofList c.helper.chars ∧ argument? c.digits.chars = some step.argument

/-- A statement that is read has a call, and the first of its calls is the step. -/
theorem CallsIn.is_of_read {s : List Char} {cs : List WrittenCall} {step : Call}
    (hcs : CallsIn s cs) (h : Call.read s = .ok step) : ∃ c later, cs = c :: later ∧ c.Is step := by
  cases cs with
  | nil =>
    rw [Call.read, hcs.read_eq_error] at h
    cases h
  | cons c later =>
    rw [Call.read_of_parts hcs.read_eq] at h
    cases hn : argument? c.digits.chars with
    | none =>
      rw [hn] at h
      cases h
    | some n =>
      rw [hn] at h
      obtain rfl := Except.ok.inj h
      exact ⟨c, later, rfl, rfl, hn⟩

/-- Lists that are not empty are as many as their items exactly if each has one item only. -/
theorem length_eq_length_flatten_iff {α : Type*} {xss : List (List α)} (h : ∀ xs ∈ xss, xs ≠ []) :
    xss.length = xss.flatten.length ↔ ∀ xs ∈ xss, xs.length = 1 := by
  induction xss with
  | nil => simp
  | cons xs xss ih =>
    rw [List.forall_mem_cons] at h
    have hpos : 0 < xs.length := List.length_pos_of_ne_nil h.1
    have hle : xss.length ≤ xss.flatten.length := by
      rw [List.length_flatten, ← List.length_map List.length]
      refine List.length_le_sum_of_one_le _ fun n hn ↦ ?_
      obtain ⟨ys, hys, rfl⟩ := List.mem_map.1 hn
      exact List.length_pos_of_ne_nil (h.2 ys hys)
    rw [List.flatten_cons, List.length_append, List.length_cons, List.forall_mem_cons, ← ih h.2]
    omega

namespace Plan

variable {text : List Char} {plan : Plan}

/-- The steps of a plan are those of its statements. -/
theorem forall₂_of_read (h : Plan.read text = .ok plan) :
    List.Forall₂ (fun s step ↦ Call.read s = .ok step) (statements text) plan.steps :=
  mapM_eq_ok_iff.1 (mapM_of_read h)

/-- A plan has one step for each statement, which is the first call in it. -/
theorem forall₂_calls_of_read (h : Plan.read text = .ok plan) {calls : List (List WrittenCall)}
    (hcalls : List.Forall₂ CallsIn (statements text) calls) :
    List.Forall₂ (fun cs step ↦ ∃ c later, cs = c :: later ∧ c.Is step) calls plan.steps := by
  have hread := forall₂_of_read h
  generalize statements text = ss at hcalls hread
  generalize plan.steps = steps at hread
  induction hcalls generalizing steps with
  | nil =>
    cases hread
    exact .nil
  | cons hcs _ ih =>
    cases hread with
    | cons hs later => exact .cons (hcs.is_of_read hs) (ih _ later)

/-- **A plan has one step for each statement, which is the first call in it**, whatever other calls
the statement has. So it has all calls of its statements exactly if each of them has one only. -/
theorem steps_of_read (h : Plan.read text = .ok plan) {calls : List (List WrittenCall)}
    (hcalls : List.Forall₂ CallsIn (statements text) calls) :
    List.Forall₂ (fun cs step ↦ ∃ c later, cs = c :: later ∧ c.Is step) calls plan.steps ∧
      (plan.steps.length = calls.flatten.length ↔ ∀ cs ∈ calls, cs.length = 1) := by
  have hsteps := forall₂_calls_of_read h hcalls
  refine ⟨hsteps, ?_⟩
  -- a statement with a step has a call
  have hne : ∀ cs ∈ calls, cs ≠ [] := by
    refine ((List.forall₂_and_left (R := fun _ _ ↦ True) calls plan.steps).1
      (hsteps.imp fun cs step hcs ↦ ?_)).1
    obtain ⟨c, later, rfl, -⟩ := hcs
    exact ⟨List.cons_ne_nil c later, trivial⟩
  rw [← hsteps.length_eq, length_eq_length_flatten_iff hne]

end Plan

/-! ### A call that is dropped -/

/-- Two calls with a comma between them are two calls. -/
theorem callsIn_comma (c d : WrittenCall) : CallsIn (c.text (',' :: d.text [])) [c, d] := by
  have hnil (rest : List Char) : NoCallWithin [] rest := fun u v _ _ huv hv ↦
    absurd (List.append_eq_nil_iff.1 huv.symm).2 hv
  have later : CallsIn ([','] ++ d.text []) [d] := by
    refine .cons ?_ (.nil (hnil []))
    rintro u (_ | ⟨x, v⟩) e behind huv hv he
    · exact hv rfl
    · have hx : x ∈ [','] := by
        rw [huv]
        exact List.mem_append_right u List.mem_cons_self
      have hpart : partClass.has x = true := e.part_head?_text behind x (by rw [← he]; rfl)
      rw [List.mem_singleton.1 hx] at hpart
      revert hpart
      decide
  exact .cons (hnil _) later

/-- The first of two calls is read, and the other is dropped. -/
theorem Call.read_comma (c d : WrittenCall) {n : ℕ} (hn : argument? c.digits.chars = some n) :
    Call.read (c.text (',' :: d.text [])) = .ok ⟨String.ofList c.helper.chars, n⟩ :=
  Call.read_of_argument (callsIn_comma c d).read_eq hn

/-- The call `Qr.kT(a,2)`. -/
def keptCall : WrittenCall where
  object := ⟨"Qr".toList, by decide, List.all_eq_true.1 (by decide)⟩
  helper := ⟨"kT".toList, by decide, List.all_eq_true.1 (by decide)⟩
  token := ⟨"a".toList, by decide, List.all_eq_true.1 (by decide)⟩
  digits := ⟨"2".toList, by decide, List.all_eq_true.1 (by decide)⟩
  spaces _ := []
  isBlank_spaces := isBlank_of_mem_nil

/-- The call `Qr.wR(a,33)`. -/
def droppedCall : WrittenCall where
  object := ⟨"Qr".toList, by decide, List.all_eq_true.1 (by decide)⟩
  helper := ⟨"wR".toList, by decide, List.all_eq_true.1 (by decide)⟩
  token := ⟨"a".toList, by decide, List.all_eq_true.1 (by decide)⟩
  digits := ⟨"33".toList, by decide, List.all_eq_true.1 (by decide)⟩
  spaces _ := []
  isBlank_spaces := isBlank_of_mem_nil

/-- A text of two calls is read as a plan of one step. -/
theorem Plan.read_dropped :
    ∃ plan, Plan.read "Qr.kT(a,2),Qr.wR(a,33)".toList = .ok plan ∧ plan.steps = [⟨"kT", 2⟩] ∧
      plan.steps.length ≠ [keptCall, droppedCall].length := by
  have hstatements : statements "Qr.kT(a,2),Qr.wR(a,33)".toList =
      [keptCall.text (',' :: droppedCall.text [])] := by decide
  have hread : (statements "Qr.kT(a,2),Qr.wR(a,33)".toList).mapM Call.read = .ok [⟨"kT", 2⟩] := by
    rw [hstatements, List.mapM_cons, Call.read_comma keptCall droppedCall (n := 2) (by decide)]
    rfl
  have hplan := Plan.read_of_statements (List.cons_ne_nil _ _) hread
  refine ⟨_, hplan, rfl, fun h ↦ ?_⟩
  have hcalls : List.Forall₂ CallsIn (statements "Qr.kT(a,2),Qr.wR(a,33)".toList)
      [[keptCall, droppedCall]] := by
    rw [hstatements]
    exact .cons (callsIn_comma _ _) .nil
  have hone := (steps_of_read hplan hcalls).2.1 h _ List.mem_cons_self
  revert hone
  decide

end Unscramble

import Mathlib.Data.Nat.Find
import Unscramble.Proofs.Unscrambler.Positions

/-!
# How long a token stays

A run looks at no character of its token, so the number of characters at the start decides whether
it succeeds and how many characters are left. Reversing and exchanging leave all of them. Dropping
`n` of `k` characters behind the first `n` leaves `max (k - n) n`. How many characters that drops,
`min n (k - n)`, does not follow the order of the lengths; what it leaves does, and two lengths are
never farther apart afterwards. `IsSteady` says so of any function on lengths, and it passes from
the functions of the moves to that of a plan.

The same two facts about single moves, when they can run and what they leave, show that only the
empty token is ever empty on the way, so that exchanging cannot fail later than at the start.

## Main definitions

* `Move.lengthAfter?`, `Unscrambler.finalLength?`: the number of characters that a move and calls
  leave.
* `IsSteady`: longer tokens go as well, stay longer, and are not stretched.
* `Unscrambler.Refuses`, `Unscrambler.KeepsEmptiness`: what a run can fail with, and that its token
  is empty throughout or never.

## Main statements

* `finalLength?_length`: these numbers are those of the fold.
* `isSteady_finalLength?`: the number that calls leave is a steady function.
* `run_steady`: what succeeds on a token succeeds on all longer ones, from a least length on.
* `keepsEmptiness_runSteps`, `run_empty_iff`: only the empty token is ever empty.
-/

namespace Unscramble

variable {α : Type}

/-! ### One move -/

namespace Move

/-- The number of characters that a move leaves of `k`, if it can run on them. -/
def lengthAfter? : Move → ℕ → Option ℕ
  | reverse, k => some k
  | dropMiddle n, k => if k < n then none else some (max (k - n) n)
  | swapHead _, k => if k = 0 then none else some k

theorem lengthAfter?_length (m : Move) (t : List α) :
    m.lengthAfter? t.length = (m.apply t).toOption.map List.length := by
  cases m with
  | reverse => simp [lengthAfter?, apply, Except.toOption]
  | dropMiddle n =>
    rw [lengthAfter?, apply]
    split
    · rfl
    · have hlength : (t.take n ++ t.drop (2 * n)).length = max (t.length - n) n := by
        rw [List.length_append, List.length_take, List.length_drop]
        omega
      exact congrArg some hlength.symm
  | swapHead n =>
    rw [lengthAfter?, apply]
    cases t with
    | nil => rfl
    | cons a t => exact congrArg some (length_swapFirst _ _).symm

/-- A move that can run leaves no character exactly if there is none. -/
theorem eq_zero_iff_of_lengthAfter? {m : Move} {k k' : ℕ} (h : m.lengthAfter? k = some k') :
    k' = 0 ↔ k = 0 := by
  cases m with
  | reverse => rw [Option.some.inj h]
  | dropMiddle n =>
    rw [lengthAfter?] at h
    split at h
    · cases h
    · obtain rfl : max (k - n) n = k' := Option.some.inj h
      omega
  | swapHead n =>
    rw [lengthAfter?] at h
    split at h
    · cases h
    · rw [Option.some.inj h]

/-- **A token becomes empty only if it is.** -/
theorem eq_nil_iff_of_apply {m : Move} {t u : List α} (h : m.apply t = .ok u) :
    u = [] ↔ t = [] := by
  have hlength : m.lengthAfter? t.length = some u.length := by
    rw [lengthAfter?_length, h]
    rfl
  simpa only [List.length_eq_zero_iff] using eq_zero_iff_of_lengthAfter? hlength

/-- **Why a move refuses a token**: it has to keep more characters than there are, or to exchange
one where there is none. -/
theorem of_apply_eq_error {m : Move} {t : List α} {r : OutOfRange} (h : m.apply t = .error r) :
    (∃ n, r = ⟨.dropMiddle, n, t.length⟩ ∧ t.length < n) ∨
      ∃ n, r = ⟨.swapHead, n, 0⟩ ∧ t = [] := by
  cases m with
  | reverse => cases h
  | dropMiddle n =>
    rw [apply] at h
    split at h
    case isTrue hlt => exact .inl ⟨n, (Except.error.inj h).symm, hlt⟩
    case isFalse => cases h
  | swapHead n =>
    rw [apply] at h
    split at h
    case isTrue ht => exact .inr ⟨n, (Except.error.inj h).symm, List.isEmpty_iff.1 ht⟩
    case isFalse => cases h

end Move

/-! ### Functions on lengths -/

/-- A function on lengths that, where it is defined, is so for all greater lengths, keeps their
order, and takes no two lengths farther apart. -/
def IsSteady (f : ℕ → Option ℕ) : Prop :=
  ∀ ⦃a b a' : ℕ⦄, f a = some a' → a ≤ b → ∃ b', f b = some b' ∧ a' ≤ b' ∧ b' + a ≤ a' + b

/-- A function on lengths that takes values as great as one likes. -/
def IsUnbounded (f : ℕ → Option ℕ) : Prop :=
  ∀ n, ∃ k k', f k = some k' ∧ n ≤ k'

section Lengths

variable {f g : ℕ → Option ℕ}

theorem isSteady_some : IsSteady some := by
  intro a b a' ha hab
  obtain rfl : a = a' := Option.some.inj ha
  exact ⟨b, rfl, hab, Nat.le_of_eq (Nat.add_comm b a)⟩

theorem IsSteady.bind (hf : IsSteady f) (hg : IsSteady g) : IsSteady fun k ↦ (f k).bind g := by
  intro a b a'' ha hab
  obtain ⟨a', hfa, hga⟩ := Option.bind_eq_some_iff.1 ha
  obtain ⟨b', hfb, hle', hstretch'⟩ := hf hfa hab
  obtain ⟨b'', hgb, hle'', hstretch''⟩ := hg hga hle'
  exact ⟨b'', Option.bind_eq_some_iff.2 ⟨b', hfb, hgb⟩, hle'', by omega⟩

theorem isUnbounded_some : IsUnbounded some :=
  fun n ↦ ⟨n, n, rfl, Nat.le_refl n⟩

theorem IsUnbounded.bind (hf : IsUnbounded f) (hg : IsUnbounded g) (hsteady : IsSteady g) :
    IsUnbounded fun k ↦ (f k).bind g := by
  intro n
  obtain ⟨m, m', hgm, hn⟩ := hg n
  obtain ⟨k, k', hfk, hm⟩ := hf m
  -- `f` need not meet `m` itself, but from `m` on `g` is defined and great enough
  obtain ⟨k'', hgk, hle, -⟩ := hsteady hgm hm
  exact ⟨k, k'', Option.bind_eq_some_iff.2 ⟨k', hfk, hgk⟩, hn.trans hle⟩

/-- **A least length**: a steady function that is defined somewhere is defined from some length on,
and not below it. -/
theorem IsSteady.exists_least (hf : IsSteady f) (h : ∃ k, (f k).isSome = true) :
    ∃ least, ∀ k, (f k).isSome = true ↔ least ≤ k := by
  refine ⟨Nat.find h, fun k ↦ ⟨fun hk ↦ Nat.find_min' h hk, fun hle ↦ ?_⟩⟩
  obtain ⟨a', ha'⟩ := Option.isSome_iff_exists.1 (Nat.find_spec h)
  obtain ⟨k', hk', -⟩ := hf ha' hle
  exact Option.isSome_of_eq_some hk'

theorem Move.isSteady_lengthAfter? (m : Move) : IsSteady m.lengthAfter? := by
  cases m with
  | reverse => exact isSteady_some
  | dropMiddle n =>
    intro a b a' ha hab
    simp only [lengthAfter?] at ha ⊢
    split at ha
    · cases ha
    case isFalse hn =>
      obtain rfl : max (a - n) n = a' := Option.some.inj ha
      exact ⟨max (b - n) n, if_neg (by omega), by omega, by omega⟩
  | swapHead n =>
    intro a b a' ha hab
    simp only [lengthAfter?] at ha ⊢
    split at ha
    · cases ha
    case isFalse hn =>
      obtain rfl : a = a' := Option.some.inj ha
      exact ⟨b, if_neg (by omega), hab, by omega⟩

theorem Move.isUnbounded_lengthAfter? (m : Move) : IsUnbounded m.lengthAfter? := by
  intro k
  cases m with
  | reverse => exact ⟨k, k, rfl, Nat.le_refl k⟩
  | dropMiddle n => exact ⟨k + n, max (k + n - n) n, if_neg (by omega), by omega⟩
  | swapHead n => exact ⟨k + 1, k + 1, rfl, Nat.le_succ k⟩

end Lengths

namespace Unscrambler

variable {helpers : HelperTable} {calls : List Call}

/-! ### Calls -/

/-- The number of characters that a call leaves of `k`, if it can run on them. -/
def lengthAfter? (helpers : HelperTable) (k : ℕ) (c : Call) : Option ℕ :=
  (helpers.move? c).bind fun m ↦ m.lengthAfter? k

/-- The number of characters that calls leave of `k`, if all of them can run. -/
def finalLength? (helpers : HelperTable) (calls : List Call) (k : ℕ) : Option ℕ :=
  calls.foldlM (lengthAfter? helpers) k

theorem finalLength?_cons (helpers : HelperTable) (c : Call) (cs : List Call) :
    finalLength? helpers (c :: cs) =
      fun k ↦ (lengthAfter? helpers k c).bind (finalLength? helpers cs) := rfl

theorem lengthAfter?_length (helpers : HelperTable) (c : Call) (token : List α) :
    lengthAfter? helpers token.length c = (after? helpers token c).map List.length := by
  rw [lengthAfter?, after?]
  cases helpers.move? c with
  | none => rfl
  | some m => exact m.lengthAfter?_length token

/-- **Lengths go on their own**: the length that calls leave is that of the token they leave. -/
theorem finalLength?_length (helpers : HelperTable) (calls : List Call) (token : List α) :
    finalLength? helpers calls token.length = (fold? helpers calls token).map List.length := by
  induction calls generalizing token with
  | nil => rfl
  | cons c cs ih =>
    show (lengthAfter? helpers token.length c).bind (finalLength? helpers cs) = _
    rw [fold?_cons, lengthAfter?_length]
    cases after? helpers token c with
    | none => rfl
    | some t => exact ih t

theorem isSteady_lengthAfter? (helpers : HelperTable) (c : Call) :
    IsSteady fun k ↦ lengthAfter? helpers k c := by
  cases hm : helpers.move? c with
  | none =>
    -- nowhere defined
    simp only [lengthAfter?, hm]
    exact nofun
  | some m =>
    simp only [lengthAfter?, hm]
    exact m.isSteady_lengthAfter?

/-- **Calls are steady**: by induction, as each of them is. -/
theorem isSteady_finalLength? (helpers : HelperTable) (calls : List Call) :
    IsSteady (finalLength? helpers calls) := by
  induction calls with
  | nil => exact isSteady_some
  | cons c cs ih =>
    rw [finalLength?_cons]
    exact (isSteady_lengthAfter? helpers c).bind ih

theorem isUnbounded_finalLength?
    (h : ∀ c ∈ calls, (helpers.get? c.helper).isSome = true) :
    IsUnbounded (finalLength? helpers calls) := by
  induction calls with
  | nil => exact isUnbounded_some
  | cons c cs ih =>
    obtain ⟨hc, hcs⟩ := List.forall_mem_cons.1 h
    obtain ⟨family, hfamily⟩ := Option.isSome_iff_exists.1 hc
    have hcall : IsUnbounded fun k ↦ lengthAfter? helpers k c := by
      simp only [lengthAfter?, HelperTable.move?, hfamily]
      exact (family.bind c.argument).isUnbounded_lengthAfter?
    rw [finalLength?_cons]
    exact hcall.bind (ih hcs) (isSteady_finalLength? helpers cs)

/-! ### Runs on longer tokens -/

/-- A run succeeds exactly with what the fold has for an answer. -/
theorem outcome_run_eq_ok_iff {u : Unscrambler} {token t : List α} :
    (u.run token).2 = .ok t ↔ fold? u.helpers u.plan.steps token = some t :=
  ⟨fold?_eq_some_of_run, fun h ↦ (runSteps_of_fold?_eq_some h 0).1⟩

theorem finalLength?_of_run {u : Unscrambler} {token t : List α} (h : (u.run token).2 = .ok t) :
    finalLength? u.helpers u.plan.steps token.length = some t.length := by
  rw [finalLength?_length, outcome_run_eq_ok_iff.1 h]
  rfl

/-- A run succeeds on every token of a length from which its calls leave some length. -/
theorem exists_run_of_finalLength? {u : Unscrambler} {token : List α} {k : ℕ}
    (h : finalLength? u.helpers u.plan.steps token.length = some k) :
    ∃ t, (u.run token).2 = .ok t ∧ t.length = k := by
  rw [finalLength?_length] at h
  obtain ⟨t, ht, hk⟩ := Option.map_eq_some_iff.1 h
  exact ⟨t, outcome_run_eq_ok_iff.2 ht, hk⟩

/-- **Longer tokens go as well.** If a run succeeds on a token, it succeeds on every token that is
at least as long; what it leaves of it is at least as long, and longer by no more than the token is.
If all helpers are known, there is a least length from which the run succeeds, and it fails on all
shorter tokens. -/
theorem run_steady (u : Unscrambler) :
    (∀ {α β : Type} (s a : List α) (t : List β), (u.run s).2 = .ok a → s.length ≤ t.length →
      ∃ b, (u.run t).2 = .ok b ∧ a.length ≤ b.length ∧
        b.length - a.length ≤ t.length - s.length) ∧
    ((∀ c ∈ u.plan.steps, (u.helpers.get? c.helper).isSome = true) →
      ∃ least, ∀ {α : Type} (t : List α),
        (least ≤ t.length → ∃ b, (u.run t).2 = .ok b) ∧
        (t.length < least → ∃ e, (u.run t).2 = .error e)) := by
  have hsteady := isSteady_finalLength? u.helpers u.plan.steps
  refine ⟨fun s a t hs hst ↦ ?_, fun hknown ↦ ?_⟩
  · obtain ⟨k, hk, hle, hstretch⟩ := hsteady (finalLength?_of_run hs) hst
    obtain ⟨b, hb, rfl⟩ := exists_run_of_finalLength? hk
    exact ⟨b, hb, hle, by omega⟩
  · obtain ⟨k, k', hk, -⟩ := isUnbounded_finalLength? hknown 0
    obtain ⟨least, hleast⟩ := hsteady.exists_least ⟨k, Option.isSome_of_eq_some hk⟩
    refine ⟨least, fun t ↦ ⟨fun hle ↦ ?_, fun hlt ↦ ?_⟩⟩
    · obtain ⟨n, hn⟩ := Option.isSome_iff_exists.1 ((hleast t.length).2 hle)
      obtain ⟨b, hb, -⟩ := exists_run_of_finalLength? hn
      exact ⟨b, hb⟩
    · rcases hrun : (u.run t).2 with e | b
      · exact ⟨e, rfl⟩
      · -- a success would put the length among those from `least` on
        have hle := (hleast t.length).1 (Option.isSome_of_eq_some (finalLength?_of_run hrun))
        exact absurd hle (Nat.not_le.2 hlt)

/-- A plan that keeps two characters in front of those that it drops, and then exchanges. -/
def dropping : Unscrambler :=
  ⟨⟨[⟨"Dd", 2⟩, ⟨"kT", 1⟩], List.cons_ne_nil _ _⟩,
    .ofList [("Dd", .dropMiddle), ("kT", .swapHead)]⟩

theorem run_steady_dropping :
    (dropping.run "abc".toList).2 = .ok "ba".toList ∧
      (∃ b, (dropping.run "abcdef".toList).2 = .ok b ∧ 2 ≤ b.length ∧ b.length - 2 ≤ 3) ∧
      (∀ c ∈ dropping.plan.steps, (dropping.helpers.get? c.helper).isSome = true) ∧
      ∃ least, ∀ t : List Char, (least ≤ t.length → ∃ b, (dropping.run t).2 = .ok b) ∧
        (t.length < least → ∃ e, (dropping.run t).2 = .error e) := by
  have hshort : (dropping.run "abc".toList).2 = .ok "ba".toList := rfl
  have hknown : ∀ c ∈ dropping.plan.steps, (dropping.helpers.get? c.helper).isSome = true :=
    List.forall_mem_cons.2 ⟨rfl, List.forall_mem_singleton.2 rfl⟩
  obtain ⟨hlong, hleast⟩ := run_steady dropping
  obtain ⟨least, h⟩ := hleast hknown
  exact ⟨hshort, hlong _ _ "abcdef".toList hshort (by decide), hknown, least, fun t ↦ h t⟩

/-! ### Empty tokens -/

/-- What a run on a token can fail with: a helper that is unknown, a head that is longer than the
token then is, or, on the empty token, an exchange. -/
inductive Refuses (token : List α) : Failure → Prop
  | unknownHelper (name : String) : Refuses token (.unknownHelper name)
  | dropMiddle {n len : ℕ} (lt : len < n) : Refuses token (.outOfRange ⟨.dropMiddle, n, len⟩)
  | swapHead (n : ℕ) (eq_nil : token = []) : Refuses token (.outOfRange ⟨.swapHead, n, 0⟩)

/-- A run on which the token is empty throughout or never. -/
structure KeepsEmptiness (token : List α) (r : Trail × Except Failure (List α)) : Prop where
  /-- The token after a step that ran is empty exactly if it was at the start. -/
  after_eq_zero_iff : ∀ index helper m before after,
    .ran index helper m before after ∈ r.1 → (after = 0 ↔ token = [])
  /-- So is the token at the end. -/
  eq_nil_iff : ∀ t, r.2 = .ok t → (t = [] ↔ token = [])
  /-- And a failure is one of those that leave it so. -/
  refuses : ∀ e, r.2 = .error e → Refuses token e

/-- A step keeps emptiness, and says why it cannot run. -/
theorem runStep_cases (helpers : HelperTable) (c : Call) (token : List α) :
    (∃ e, runStep helpers c token = .error e ∧ Refuses token e) ∨
      ∃ m t, runStep helpers c token = .ok (m, t) ∧ (t = [] ↔ token = []) := by
  cases hf : helpers.get? c.helper with
  | none =>
    refine .inl ⟨.unknownHelper c.helper, ?_, .unknownHelper c.helper⟩
    rw [runStep, resolve, hf]
    rfl
  | some family =>
    rw [runStep_of_get? hf]
    cases ht : (family.bind c.argument).apply token with
    | ok t => exact .inr ⟨_, t, rfl, Move.eq_nil_iff_of_apply ht⟩
    | error r =>
      refine .inl ⟨.outOfRange r, rfl, ?_⟩
      rcases Move.of_apply_eq_error ht with ⟨n, rfl, hlt⟩ | ⟨n, rfl, hnil⟩
      · exact .dropMiddle hlt
      · exact .swapHead n hnil

/-- **Every run keeps emptiness**: by induction on the calls, each of which keeps it. -/
theorem keepsEmptiness_runSteps (helpers : HelperTable) (index : ℕ) (calls : List Call)
    (token : List α) : KeepsEmptiness token (runSteps helpers index calls token) := by
  induction calls generalizing index token with
  | nil =>
    refine ⟨fun _ _ _ _ _ hmem ↦ absurd hmem List.not_mem_nil, fun t ht ↦ ?_, fun e he ↦ ?_⟩
    · obtain rfl : token = t := Except.ok.inj ht
      exact Iff.rfl
    · cases he
  | cons c cs ih =>
    rcases runStep_cases helpers c token with ⟨e, hstep, he⟩ | ⟨m, t, hstep, hnil⟩
    · rw [runSteps, hstep]
      refine ⟨fun i h m before after hmem ↦ ?_, fun t ht ↦ ?_, fun e' he' ↦ ?_⟩
      · cases List.mem_singleton.1 hmem
      · cases ht
      · obtain rfl : e = e' := Except.error.inj he'
        exact he
    · rw [runSteps, hstep]
      obtain ⟨hafter, hend, hrefuses⟩ := ih (index + 1) t
      refine ⟨fun i h m' before after hmem ↦ ?_, fun t' ht' ↦ (hend t' ht').trans hnil,
        fun e he ↦ ?_⟩
      · rcases List.mem_cons.1 hmem with heq | hmem
        · cases heq
          rw [List.length_eq_zero_iff, hnil]
        · exact (hafter i h m' before after hmem).trans hnil
      · cases hrefuses e he with
        | unknownHelper name => exact .unknownHelper name
        | dropMiddle hlt => exact .dropMiddle hlt
        | swapHead n ht => exact .swapHead n (hnil.1 ht)

/-- **Only the empty token is ever empty.** After every number of steps, in every entry of the
trail and at the end the token is empty exactly if it was at the start. So a run on a token that is
not empty fails only for an unknown helper or for a head that is longer than the token then is, and
an exchange fails only on the empty token, with length zero. -/
theorem run_empty_iff (u : Unscrambler) (token : List α) :
    (∀ k t, (runSteps u.helpers 0 (u.plan.steps.take k) token).2 = .ok t →
      (t = [] ↔ token = [])) ∧
    KeepsEmptiness token (u.run token) :=
  ⟨fun k ↦ (keepsEmptiness_runSteps u.helpers 0 (u.plan.steps.take k) token).eq_nil_iff,
    keepsEmptiness_runSteps u.helpers 0 u.plan.steps token⟩

theorem run_empty_iff_dropping :
    (dropping.run "abc".toList).2 = .ok "ba".toList ∧ ("ba".toList = [] ↔ "abc".toList = []) ∧
      (dropping.run "a".toList).2 = .error (.outOfRange ⟨.dropMiddle, 2, 1⟩) ∧
      Refuses "a".toList (.outOfRange ⟨.dropMiddle, 2, 1⟩) := by
  have hok : (dropping.run "abc".toList).2 = .ok "ba".toList := rfl
  have herror : (dropping.run "a".toList).2 = .error (.outOfRange ⟨.dropMiddle, 2, 1⟩) := rfl
  exact ⟨hok, (run_empty_iff dropping _).2.eq_nil_iff _ hok, herror,
    (run_empty_iff dropping _).2.refuses _ herror⟩

end Unscrambler

end Unscramble

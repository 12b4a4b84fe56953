import Mathlib.Data.List.Basic
import Unscramble.Lookup

/-!
# How a lookup goes

A lookup tries its recognizers in order and ends in one of three ways: one captures something, none
does, or one is no pattern. `Lookup.Ends` lists them, each with the trail that it leaves, and
`Lookup.run_ends` says that there is no other way. Everything about the trail of a lookup can be
read off there, without looking at how the lookup works.

The decisions that a lookup leaves are a *block*: they count the recognizers from zero, and only the
last of them can be a match.

## Main statements

* `Lookup.run_ends`: the ways in which a lookup ends.
* `Captures.isBlock`, `isBlock_vain`: what a lookup leaves is a block.
* `Captures.unique`: a block that ends with a match fixes what was captured.
-/

namespace Unscramble

/-- The decisions that recognizers leave which were tried in vain. -/
def vain (stage : Stage) (rs : List Recognizer) : Trail :=
  rs.mapIdx fun i r ↦ .tried stage i r.name false

/-- The decisions that recognizers leave of which the last, `r`, captures something. -/
def won (stage : Stage) (earlier : List Recognizer) (r : Recognizer) : Trail :=
  vain stage earlier ++ [.tried stage earlier.length r.name true]

/-- Decisions on recognizers of a list, from the first on and in order, of which only the last can
be a match. -/
def IsBlock (stage : Stage) (rs : List Recognizer) (b : Trail) : Prop :=
  (∃ tried, tried <+: rs ∧ b = vain stage tried) ∨
    ∃ earlier r, earlier ++ [r] <+: rs ∧ b = won stage earlier r

/-- Decisions of which the last is a match. -/
def EndsMatched (b : Trail) : Prop :=
  ∃ before stage index name, b = before ++ [.tried stage index name true]

/-- The block `b` is that of recognizers which end with one that captures `value`. -/
def Captures (stage : Stage) (rs : List Recognizer) (text : List Char)
    (name : Option (List Char)) (b : Trail) (value : List Char) : Prop :=
  ∃ earlier r later, rs = earlier ++ r :: later ∧ b = won stage earlier r ∧
    r.recognize text name = .ok (some value)

/-- The ways in which a lookup ends, with the trail and the outcome that it leaves. -/
inductive Lookup.Ends (l : Lookup) (text : List Char) (name : Option (List Char)) :
    Trail → Except Failure (List Char) → Prop
  /-- The recognizers before `r` capture nothing, and `r` captures `value`. -/
  | found {earlier later : List Recognizer} {r : Recognizer} {value : List Char}
      (split : l.recognizers = earlier ++ r :: later)
      (before : ∀ s ∈ earlier, s.recognize text name = .ok none)
      (captured : r.recognize text name = .ok (some value)) :
      Ends l text name (won l.stage earlier r) (.ok value)
  /-- No recognizer captures anything. -/
  | missed (all : ∀ s ∈ l.recognizers, s.recognize text name = .ok none) :
      Ends l text name (vain l.stage l.recognizers) (.error (.notFound l.stage))
  /-- The recognizers before `r` capture nothing, and `r` is no pattern. -/
  | broken {earlier later : List Recognizer} {r : Recognizer} {e : Pattern.PatternError}
      (split : l.recognizers = earlier ++ r :: later)
      (before : ∀ s ∈ earlier, s.recognize text name = .ok none)
      (refused : r.recognize text name = .error e) :
      Ends l text name (vain l.stage earlier) (.error (.badPattern e))

/-! ### Blocks -/

@[simp] theorem length_vain (stage : Stage) (rs : List Recognizer) :
    (vain stage rs).length = rs.length := by
  rw [vain, List.length_mapIdx]

theorem vain_append_singleton (stage : Stage) (rs : List Recognizer) (r : Recognizer) :
    vain stage (rs ++ [r]) = vain stage rs ++ [.tried stage rs.length r.name false] := by
  rw [vain, List.mapIdx_append, List.mapIdx_singleton, Nat.zero_add, vain]

theorem mem_vain {stage : Stage} {rs : List Recognizer} {d : Decision} (h : d ∈ vain stage rs) :
    ∃ index name, d = .tried stage index name false := by
  obtain ⟨i, hi, hd⟩ := List.mem_mapIdx.1 h
  exact ⟨_, _, hd.symm⟩

theorem endsMatched_won (stage : Stage) (earlier : List Recognizer) (r : Recognizer) :
    EndsMatched (won stage earlier r) :=
  ⟨_, _, _, _, rfl⟩

theorem not_endsMatched_vain (stage : Stage) (rs : List Recognizer) :
    ¬ EndsMatched (vain stage rs) := by
  rintro ⟨before, stage', index, name, h⟩
  have hmem : Decision.tried stage' index name true ∈ vain stage rs := by
    rw [h]
    exact List.mem_append_right _ (List.mem_singleton_self _)
  obtain ⟨i, hi, hd⟩ := List.mem_mapIdx.1 hmem
  cases hd

/-- The only match among decisions is the last of them. -/
theorem eq_length_of_mem_won {stage stage' : Stage} {earlier : List Recognizer} {r : Recognizer}
    {index : ℕ} {name : String} (h : .tried stage' index name true ∈ won stage earlier r) :
    index = earlier.length := by
  rcases List.mem_append.1 h with h | h
  · obtain ⟨_, _, hd⟩ := mem_vain h
    cases hd
  · cases List.mem_singleton.1 h
    rfl

theorem not_endsMatched_nil : ¬ EndsMatched [] :=
  not_endsMatched_vain .entryName []

/-- Trying in vain all of a list and only a part of it look different. -/
theorem vain_ne_vain_append_cons (stage : Stage) (earlier later : List Recognizer)
    (r : Recognizer) : vain stage earlier ≠ vain stage (earlier ++ r :: later) := by
  intro h
  have := congrArg List.length h
  simp at this

theorem isBlock_vain {stage : Stage} {tried rs : List Recognizer} (h : tried <+: rs) :
    IsBlock stage rs (vain stage tried) :=
  .inl ⟨tried, h, rfl⟩

theorem isBlock_nil (stage : Stage) (rs : List Recognizer) : IsBlock stage rs [] :=
  isBlock_vain (List.nil_prefix (l := rs))

section Captures

variable {stage : Stage} {rs : List Recognizer} {text : List Char} {name : Option (List Char)}
  {b : Trail} {v w : List Char}

theorem Captures.isBlock (h : Captures stage rs text name b v) : IsBlock stage rs b := by
  obtain ⟨earlier, r, later, rfl, rfl, -⟩ := h
  exact .inr ⟨earlier, r, ⟨later, by simp⟩, rfl⟩

theorem Captures.endsMatched (h : Captures stage rs text name b v) : EndsMatched b := by
  obtain ⟨earlier, r, later, -, rfl, -⟩ := h
  exact endsMatched_won stage earlier r

/-- **A match fixes its capture.** The block tells how many recognizers were tried, so which one it
was that captured something. -/
theorem Captures.unique (h : Captures stage rs text name b v)
    (h' : Captures stage rs text name b w) : v = w := by
  obtain ⟨earlier, r, later, rfl, rfl, hv⟩ := h
  obtain ⟨earlier', r', later', hrs, hb, hw⟩ := h'
  -- both blocks have one decision per recognizer that was tried
  have hlen : earlier.length = earlier'.length := by
    have := congrArg List.length hb
    simpa [won] using this
  obtain ⟨rfl, hcons⟩ := List.append_inj hrs hlen
  obtain ⟨rfl, -⟩ := List.cons.inj hcons
  rw [hv] at hw
  exact Option.some.inj (Except.ok.inj hw)

end Captures

/-! ### The lookup itself -/

/-- A lookup that goes on after recognizers tried in vain ends as one that starts with them. -/
theorem Lookup.runFrom_ends {l : Lookup} {text : List Char} {name : Option (List Char)}
    (earlier rs : List Recognizer) (hsplit : l.recognizers = earlier ++ rs)
    (hbefore : ∀ s ∈ earlier, s.recognize text name = .ok none) :
    l.Ends text name (vain l.stage earlier ++ (runFrom l.stage text name earlier.length rs).trail)
      (runFrom l.stage text name earlier.length rs).outcome := by
  induction rs generalizing earlier with
  | nil =>
    rw [List.append_nil] at hsplit
    rw [runFrom, Attempt.trail_fail, List.append_nil, ← hsplit]
    exact .missed (hsplit ▸ hbefore)
  | cons r rs ih =>
    rw [runFrom]
    cases hr : r.recognize text name with
    | error e =>
      rw [Attempt.trail_fail, List.append_nil]
      exact .broken hsplit hbefore hr
    | ok found =>
      cases found with
      | some value => exact .found hsplit hbefore hr
      | none =>
        -- one more recognizer was tried in vain
        have hbefore' : ∀ s ∈ earlier ++ [r], s.recognize text name = .ok none := by
          intro s hs
          rcases List.mem_append.1 hs with hs | hs
          · exact hbefore s hs
          · rw [List.mem_singleton.1 hs, hr]
        have hgo := ih (earlier ++ [r]) (by rw [hsplit, List.append_assoc]; rfl) hbefore'
        rw [vain_append_singleton, List.append_assoc, List.length_append] at hgo
        exact hgo

/-- **How a lookup ends.** A recognizer captures something after others captured nothing, or none
captures anything, or one is no pattern. -/
theorem Lookup.run_ends (l : Lookup) (text : List Char) (name : Option (List Char)) :
    l.Ends text name (l.run text name).trail (l.run text name).outcome :=
  runFrom_ends [] l.recognizers rfl (by simp)

theorem Lookup.Ends.captures {l : Lookup} {text v : List Char} {name : Option (List Char)}
    {b : Trail} (h : l.Ends text name b (.ok v)) :
    Captures l.stage l.recognizers text name b v := by
  cases h with
  | found split _ captured => exact ⟨_, _, _, split, rfl, captured⟩

/-- What a lookup gives is captured by the recognizer that its trail ends with. -/
theorem Lookup.captures_run {l : Lookup} {text value : List Char} {name : Option (List Char)}
    (h : (l.run text name).outcome = .ok value) :
    Captures l.stage l.recognizers text name (l.run text name).trail value := by
  have hends := l.run_ends text name
  rw [h] at hends
  exact hends.captures

/-- What a lookup gives is captured by one of its recognizers. -/
theorem Lookup.exists_of_outcome_run {l : Lookup} {text value : List Char}
    {name : Option (List Char)} (h : (l.run text name).outcome = .ok value) :
    ∃ r ∈ l.recognizers, r.recognize text name = .ok (some value) := by
  obtain ⟨earlier, r, later, hsplit, -, hr⟩ := captures_run h
  exact ⟨r, hsplit ▸ List.mem_append_right earlier List.mem_cons_self, hr⟩

/-- **A match decides**: if a recognizer is told to match, the lookup gives what it captures. -/
theorem Lookup.exists_of_matched {l : Lookup} {text : List Char} {name : Option (List Char)}
    {stage : Stage} {index : ℕ} {recognizer : String}
    (h : .tried stage index recognizer true ∈ (l.run text name).trail) :
    ∃ r value, l.recognizers[index]? = some r ∧ r.recognize text name = .ok (some value) ∧
      (l.run text name).outcome = .ok value := by
  have hends := l.run_ends text name
  generalize (l.run text name).trail = b at hends h
  generalize (l.run text name).outcome = x at hends ⊢
  cases hends with
  | @found earlier later r value split before captured =>
    obtain rfl := eq_length_of_mem_won h
    exact ⟨r, value, by simp [split], captured, rfl⟩
  | missed all =>
    obtain ⟨_, _, hd⟩ := mem_vain h
    cases hd
  | broken split before refused =>
    obtain ⟨_, _, hd⟩ := mem_vain h
    cases hd

/-- A recognizer fails only if its text is no pattern. -/
theorem read_of_recognize_eq_error {r : Recognizer} {text : List Char} {name : Option (List Char)}
    {e : Pattern.PatternError} (h : r.recognize text name = .error e) :
    Pattern.read (r.patternText name) = .error e := by
  rw [Recognizer.recognize] at h
  cases hr : Pattern.read (r.patternText name) with
  | ok pattern =>
    rw [hr] at h
    cases h
  | error e' =>
    rw [hr] at h
    obtain rfl : e' = e := Except.error.inj h
    rfl

section First

variable {stage : Stage} {r : Recognizer} {text : List Char} {name : Option (List Char)}

/-- The first recognizer decides if it captures something, and nothing else is told. -/
theorem Lookup.run_of_captured {value : List Char}
    (h : r.recognize text name = .ok (some value)) (rs : List Recognizer) :
    run ⟨stage, r :: rs⟩ text name = ⟨[.decided (.tried stage 0 r.name true)], .ok value⟩ := by
  rw [run, runFrom, h]
  rfl

/-- The first recognizer decides if it captures something. -/
theorem Lookup.outcome_run_of_captured {value : List Char}
    (h : r.recognize text name = .ok (some value)) (rs : List Recognizer) :
    (run ⟨stage, r :: rs⟩ text name).outcome = .ok value :=
  congrArg Attempt.outcome (run_of_captured h rs)

/-- The first recognizer decides if it is no pattern. -/
theorem Lookup.outcome_run_of_refused {e : Pattern.PatternError}
    (h : r.recognize text name = .error e) (rs : List Recognizer) :
    (run ⟨stage, r :: rs⟩ text name).outcome = .error (.badPattern e) := by
  rw [run, runFrom, h]
  rfl

end First

end Unscramble

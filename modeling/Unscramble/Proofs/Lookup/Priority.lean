import Unscramble.Proofs.Lookup

/-!
# A lookup is a prioritized choice

The recognizers of a lookup are tried in order until one *settles* it, by capturing something or by
being no pattern. The first that does decides both the outcome and what is noted. The ones behind it
are never looked at, so they can be replaced, added to or removed, and they need not even be
patterns.

## Main definitions

* `Recognizer.settles`: a recognizer ends a lookup that comes to it.

## Main statements

* `Lookup.notes_run`: a lookup notes its trail and nothing else.
* `Lookup.run_eq_of_settles`: what stands behind a recognizer that settles does not matter.
* `Lookup.run_first`: the first recognizer that settles decides.
-/

namespace Unscramble

variable {stage : Stage} {text : List Char} {name : Option (List Char)} {r : Recognizer}

/-- Whether a recognizer settles a lookup: it is no pattern, or it captures something. -/
def Recognizer.settles (r : Recognizer) (text : List Char) (name : Option (List Char)) : Bool :=
  match r.recognize text name with
  | .ok none => false
  | .ok (some _) | .error _ => true

theorem Recognizer.settles_of_captured {value : List Char}
    (h : r.recognize text name = .ok (some value)) : r.settles text name = true := by
  rw [settles, h]

theorem Recognizer.settles_of_refused {e : Pattern.PatternError}
    (h : r.recognize text name = .error e) : r.settles text name = true := by
  rw [settles, h]

theorem Recognizer.settles_of_vain (h : r.recognize text name = .ok none) :
    r.settles text name = false := by
  rw [settles, h]

namespace Lookup

/-! ### What is noted -/

theorem notes_runFrom (index : ℕ) (rs : List Recognizer) :
    (runFrom stage text name index rs).notes =
      (runFrom stage text name index rs).trail.map .decided := by
  induction rs generalizing index with
  | nil => rfl
  | cons r rs ih =>
    rw [runFrom]
    rcases r.recognize text name with e | (- | value)
    · rfl
    · rw [Attempt.notes_bind_ok rfl, Attempt.trail_bind_ok rfl, List.map_append, ih]
      rfl
    · rfl

/-- **A lookup notes its trail** and nothing else. -/
theorem notes_run (l : Lookup) (text : List Char) (name : Option (List Char)) :
    (l.run text name).notes = (l.run text name).trail.map .decided :=
  notes_runFrom 0 l.recognizers

/-- A lookup is known by its trail and its outcome. -/
theorem run_eq_of_trail {l : Lookup} {b : Trail} {x : Except Failure (List Char)}
    (htrail : (l.run text name).trail = b) (houtcome : (l.run text name).outcome = x) :
    l.run text name = ⟨b.map .decided, x⟩ := by
  rw [← htrail, ← houtcome, ← notes_run]

/-! ### What stands behind a recognizer that settles -/

theorem runFrom_append_cons (hr : r.settles text name = true) (index : ℕ)
    (earlier later later' : List Recognizer) :
    runFrom stage text name index (earlier ++ r :: later) =
      runFrom stage text name index (earlier ++ r :: later') := by
  induction earlier generalizing index with
  | nil =>
    rw [List.nil_append, List.nil_append, runFrom, runFrom]
    rcases hfound : r.recognize text name with e | (- | value)
    · rfl
    · rw [Recognizer.settles_of_vain hfound] at hr
      cases hr
    · rfl
  | cons s earlier ih =>
    rw [List.cons_append, List.cons_append, runFrom, runFrom, ih]

/-- **What stands behind a recognizer that settles does not matter.** -/
theorem run_eq_of_settles (hr : r.settles text name = true)
    (earlier later later' : List Recognizer) :
    run ⟨stage, earlier ++ r :: later⟩ text name = run ⟨stage, earlier ++ r :: later'⟩ text name :=
  runFrom_append_cons hr 0 earlier later later'

/-! ### The first recognizer that settles -/

theorem findIdx?_settles_eq_none {rs : List Recognizer}
    (h : ∀ s ∈ rs, s.recognize text name = .ok none) : rs.findIdx? (·.settles text name) = none :=
  List.findIdx?_eq_none_iff.2 fun s hs ↦ Recognizer.settles_of_vain (h s hs)

theorem findIdx?_settles {earlier later : List Recognizer}
    (h : ∀ s ∈ earlier, s.recognize text name = .ok none) (hr : r.settles text name = true) :
    (earlier ++ r :: later).findIdx? (·.settles text name) = some earlier.length := by
  rw [List.findIdx?_append, findIdx?_settles_eq_none h, List.findIdx?_cons, hr]
  simp

/-- Of the decisions that recognizers leave which end with a match, the one at the end is it. -/
theorem won_eq_mapIdx (stage : Stage) (earlier : List Recognizer) (r : Recognizer) :
    won stage earlier r = (earlier ++ [r]).mapIdx fun i s ↦
      .tried stage i s.name (i == earlier.length) := by
  rw [won, vain, List.mapIdx_append, List.mapIdx_singleton, Nat.zero_add, beq_self_eq_true]
  refine congrArg (· ++ _) (List.mapIdx_eq_mapIdx_iff.2 fun i hi ↦ ?_)
  rw [beq_false_of_ne (Nat.ne_of_lt hi)]

/-- **A lookup is a prioritized choice.** Let `k` be the index of the first recognizer that settles.
If that captures something, this is the outcome, and the `k + 1` recognizers up to it are noted,
with only the last as a match. If it is no pattern, the lookup fails for that, and the `k`
recognizers before it are noted. Whatever stands behind it does not matter. If no recognizer
settles, nothing is found and all are noted. -/
theorem run_first (l : Lookup) (text : List Char) (name : Option (List Char)) :
    match l.recognizers.findIdx? (·.settles text name) with
    | none => l.run text name =
        ⟨(l.recognizers.mapIdx fun i s ↦ .tried l.stage i s.name false).map .decided,
          .error (.notFound l.stage)⟩
    | some k => ∃ r, l.recognizers[k]? = some r ∧
        ((∃ value, r.recognize text name = .ok (some value) ∧ l.run text name =
            ⟨((l.recognizers.take (k + 1)).mapIdx fun i s ↦
              .tried l.stage i s.name (i == k)).map .decided, .ok value⟩) ∨
          ∃ e, Pattern.read (r.patternText name) = .error e ∧ l.run text name =
            ⟨((l.recognizers.take k).mapIdx fun i s ↦
              .tried l.stage i s.name false).map .decided, .error (.badPattern e)⟩) ∧
        ∀ later, run ⟨l.stage, l.recognizers.take (k + 1) ++ later⟩ text name =
          l.run text name := by
  obtain ⟨stage, rs⟩ := l
  have hends := run_ends ⟨stage, rs⟩ text name
  generalize htrail : (run ⟨stage, rs⟩ text name).trail = b at hends
  generalize houtcome : (run ⟨stage, rs⟩ text name).outcome = x at hends
  have hrun := run_eq_of_trail htrail houtcome
  -- the ways in which a lookup ends are told apart by the first recognizer that settles
  cases hends with
  | missed all =>
    rw [findIdx?_settles_eq_none all]
    exact hrun
  | @found earlier later r value split before captured =>
    obtain rfl : rs = earlier ++ r :: later := split
    have hsettles := Recognizer.settles_of_captured captured
    rw [findIdx?_settles before hsettles]
    refine ⟨r, by simp, .inl ⟨value, captured, ?_⟩, fun later' ↦ ?_⟩
    · rw [hrun, won_eq_mapIdx, List.take_length_add_append]
      rfl
    · rw [List.take_length_add_append, List.append_assoc]
      exact run_eq_of_settles hsettles earlier _ later
  | @broken earlier later r e split before refused =>
    obtain rfl : rs = earlier ++ r :: later := split
    have hsettles := Recognizer.settles_of_refused refused
    rw [findIdx?_settles before hsettles]
    refine ⟨r, by simp, .inr ⟨e, read_of_recognize_eq_error refused, ?_⟩, fun later' ↦ ?_⟩
    · rw [hrun, List.take_left]
      rfl
    · rw [List.take_length_add_append, List.append_assoc]
      exact run_eq_of_settles hsettles earlier _ later

end Lookup

end Unscramble

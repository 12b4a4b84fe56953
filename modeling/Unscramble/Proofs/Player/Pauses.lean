import Mathlib.Algebra.Order.Ring.Nat
import Mathlib.Data.List.Basic
import Mathlib.Order.Monotone.Basic
import Unscramble.Player.Fetcher

/-!
# Pauses between repetitions

The pause before a request is repeated is the first pause, doubled for each attempt so far, and at
most the longest pause. Two numbers on the way to it are held in words: the factor, and the seconds
of the product. If one does not fit, the longest pause is taken instead.

That could make a pause too short only if a number did not fit while the product is still below the
longest pause. Neither happens. The factor fits up to the thirty-first attempt, and the longest
pause is reached with the sixth; and a factor of thirty-two bits never gives too many seconds. So
the checks do not show in the result, which is the same as with numbers that have no bound.

## Main definitions

* `Timespan.length`: a timespan in nanoseconds.
* `Timespan.ofLength`: the timespan of so many nanoseconds.
* `pauses`: the pauses among notes.

## Main statements

* `Timespan.mul?_eq`: a timespan several times, and when there is none.
* `doubled?_eq`: a number doubled several times, and when there is none.
* `grownPause?_of_lt`, `grownPause?_of_le`: when the first pause can be doubled for each attempt.
* `delay_eq`: how long to wait is what it is without bounds.
* `exists_pauses_fetchFrom`: the pauses of a fetch are those of successive attempts.
* `delay_ideal`: all of it, and that pauses do not become shorter.
-/

namespace Unscramble

/-! ### Timespans in nanoseconds -/

namespace Timespan

/-- A timespan in nanoseconds. -/
def length (t : Timespan) : ℕ :=
  t.seconds * perSecond + t.nanoseconds

/-- The timespan of so many nanoseconds, with as many whole seconds as there are. -/
def ofLength (n : ℕ) : Timespan :=
  ⟨n / perSecond, n % perSecond⟩

theorem perSecond_pos : 0 < perSecond := by
  decide

theorem bounded?_of_lt {n : ℕ} (h : n < 2 ^ 64) : bounded? n = some n :=
  if_pos h

theorem bounded?_of_le {n : ℕ} (h : 2 ^ 64 ≤ n) : bounded? n = none :=
  if_neg (Nat.not_lt.2 h)

theorem length_ofLength (n : ℕ) : (ofLength n).length = n :=
  Nat.div_add_mod' n perSecond

/-- **A timespan several times** is as long as it should be, unless its seconds do not fit. The
product of the seconds alone is not larger, so it is no further restriction that it must fit too. -/
theorem mul?_eq (t : Timespan) (count : ℕ) : t.mul? count =
    if t.length * count / perSecond < 2 ^ 64 then some (ofLength (t.length * count)) else none := by
  have hsplit : t.length * count = t.nanoseconds * count + perSecond * (t.seconds * count) := by
    rw [length, Nat.add_mul, Nat.mul_comm t.seconds, Nat.mul_assoc, Nat.add_comm]
  have hseconds : t.length * count / perSecond =
      t.seconds * count + t.nanoseconds * count / perSecond := by
    rw [hsplit, Nat.add_mul_div_left _ _ perSecond_pos, Nat.add_comm]
  have hrest : t.length * count % perSecond = t.nanoseconds * count % perSecond := by
    rw [hsplit, Nat.add_mul_mod_self_left]
  rw [ofLength, hseconds, hrest, mul?]
  split_ifs with hfits
  · rw [bounded?_of_lt ((Nat.le_add_right _ _).trans_lt hfits), Option.bind_eq_bind,
      Option.bind_some, bounded?_of_lt hfits]
    rfl
  · rcases Nat.lt_or_ge (t.seconds * count) (2 ^ 64) with hlt | hge
    · rw [bounded?_of_lt hlt, Option.bind_eq_bind, Option.bind_some,
        bounded?_of_le (Nat.not_lt.1 hfits)]
      rfl
    · rw [bounded?_of_le hge]
      rfl

/-- The shorter of two timespans is that of fewer nanoseconds. -/
theorem shorter_ofLength (m n : ℕ) : (ofLength m).shorter (ofLength n) = ofLength (min m n) := by
  rw [shorter]
  split_ifs with hle
  · simp only [ofLength, perSecond] at hle
    rw [min_eq_left (by omega)]
  · simp only [ofLength, perSecond] at hle
    rw [min_eq_right (by omega)]

/-- Whole milliseconds are counted as such. -/
theorem milliseconds_ofLength (n : ℕ) : (ofLength (n * 1000000)).milliseconds = n := by
  simp only [milliseconds, ofLength, perSecond]
  omega

end Timespan

/-! ### Doubling -/

namespace Player

theorem doubled?_succ (times n : ℕ) : doubled? (times + 1) n =
    if 2 * n < 2 ^ 32 then doubled? times (2 * n) else none := rfl

/-- **A number doubled several times** is the product with a power of two, unless that takes more
than thirty-two bits. The numbers on the way are not larger, so it is enough to look at the last. -/
theorem doubled?_eq {n : ℕ} (h : n < 2 ^ 32) (times : ℕ) : doubled? times n =
    if n * 2 ^ times < 2 ^ 32 then some (n * 2 ^ times) else none := by
  induction times generalizing n with
  | zero => rw [doubled?, Nat.pow_zero, Nat.mul_one, if_pos h]
  | succ times ih =>
    have hproduct : 2 * n * 2 ^ times = n * 2 ^ (times + 1) := by
      rw [Nat.pow_succ, Nat.mul_comm 2 n, Nat.mul_assoc, Nat.mul_comm 2]
    rw [doubled?_succ]
    by_cases hfits : 2 * n < 2 ^ 32
    · rw [if_pos hfits, ih hfits, hproduct]
    · have hle : 2 * n ≤ n * 2 ^ (times + 1) :=
        hproduct ▸ Nat.le_mul_of_pos_right (2 * n) (Nat.two_pow_pos times)
      rw [if_neg hfits, if_neg fun hlt ↦ hfits (hle.trans_lt hlt)]

/-- **The first pause can be doubled** for each attempt as long as the factor fits: the product then
does too. -/
theorem grownPause?_of_lt {attempt : ℕ} (h : attempt < 32) :
    grownPause? attempt = some (.ofLength (200 * 2 ^ attempt * 1000000)) := by
  have hfactor : 2 ^ attempt < 2 ^ 32 := Nat.pow_lt_pow_right (by decide) h
  have hlength : firstPause.length * 2 ^ attempt = 200 * 2 ^ attempt * 1000000 := by
    rw [show firstPause.length = 200000000 from rfl]
    omega
  have hseconds : 200 * 2 ^ attempt * 1000000 / Timespan.perSecond < 2 ^ 64 := by
    rw [Timespan.perSecond]
    omega
  rw [grownPause?, doubled?_eq (by decide), Nat.one_mul, if_pos hfactor, Option.bind_eq_bind,
    Option.bind_some, Timespan.mul?_eq, hlength, if_pos hseconds]

theorem grownPause?_of_le {attempt : ℕ} (h : 32 ≤ attempt) : grownPause? attempt = none := by
  have hfactor : 2 ^ 32 ≤ 2 ^ attempt := Nat.pow_le_pow_right (by decide) h
  rw [grownPause?, doubled?_eq (by decide), Nat.one_mul, if_neg (Nat.not_lt.2 hfactor)]
  rfl

/-- Where the factor does not fit, the product is beyond the longest pause. -/
theorem le_of_width_le {attempt : ℕ} (h : 32 ≤ attempt) : 10000 ≤ 200 * 2 ^ attempt := by
  have hfactor : 2 ^ 32 ≤ 2 ^ attempt := Nat.pow_le_pow_right (by decide) h
  omega

/-! ### The pause before a repetition -/

/-- **How long to wait**: the first pause doubled for each attempt, and at most the longest. -/
theorem delay_eq (attempt : ℕ) :
    delay attempt = .ofLength (min (200 * 2 ^ attempt) 10000 * 1000000) := by
  have hlongest : longestPause = .ofLength (10000 * 1000000) := by decide
  rw [delay]
  rcases Nat.lt_or_ge attempt 32 with hlt | hge
  · rw [grownPause?_of_lt hlt, hlongest, ← Nat.mul_min_mul_right]
    exact Timespan.shorter_ofLength _ _
  · rw [grownPause?_of_le hge, min_eq_right (le_of_width_le hge)]
    exact hlongest

theorem pause_eq (attempt : ℕ) : pause attempt = min (200 * 2 ^ attempt) 10000 := by
  rw [pause, delay_eq, Timespan.milliseconds_ofLength]

/-- The fifth repetition is the last before which the pause is not the longest. -/
example : delay 5 = ⟨6, 400000000⟩ ∧ delay 6 = ⟨10, 0⟩ := by decide

/-- A later attempt waits no shorter. -/
theorem delay_mono : Monotone fun attempt ↦ (delay attempt).length := by
  intro a b hab
  show (delay a).length ≤ (delay b).length
  rw [delay_eq, delay_eq, Timespan.length_ofLength, Timespan.length_ofLength]
  have hpow : 2 ^ a ≤ 2 ^ b := Nat.pow_le_pow_right (by decide) hab
  omega

/-! ### The pauses of a fetch -/

/-- The pauses among notes. -/
def pauses (notes : List Note) : List ℕ :=
  notes.filterMap fun
    | .requestRepeated _ _ pause => some pause
    | _ => none

variable {σ : Type}

/-- **The pauses of a fetch** are those of successive attempts, one for each repetition. -/
theorem exists_pauses_fetchFrom (server : Server σ) (url : List Char) (retries attempt : ℕ)
    (s : σ) : ∃ r ≤ retries, pauses (fetchFrom server url retries attempt s).2.notes =
      (List.range r).map fun i ↦ pause (attempt + i) := by
  -- on the repetitions that are left; the pause of this attempt is noted in front of the later ones
  induction retries generalizing attempt s with
  | zero => exact ⟨0, le_rfl, rfl⟩
  | succ retries ih =>
    rcases hrequest : request server url s with ⟨s', e | text⟩
    · by_cases htransient : e.isTransient = true
      · obtain ⟨r, hr, hpauses⟩ := ih (attempt + 1) s'
        have hshift (i : ℕ) : attempt + 1 + i = attempt + (i + 1) := by omega
        refine ⟨r + 1, Nat.succ_le_succ hr, ?_⟩
        rw [fetchFrom, hrequest]
        dsimp only
        rw [if_pos htransient]
        show pause attempt :: pauses (fetchFrom server url retries (attempt + 1) s').2.notes = _
        rw [hpauses, List.range_succ_eq_map, List.map_cons, List.map_map]
        simp only [hshift]
        rfl
      · refine ⟨0, Nat.zero_le _, ?_⟩
        rw [fetchFrom, hrequest]
        dsimp only
        rw [if_neg htransient]
        rfl
    · refine ⟨0, Nat.zero_le _, ?_⟩
      rw [fetchFrom, hrequest]
      rfl

/-- **Pauses are what they are without bounds.** For every attempt, how long to wait is 200
milliseconds times a power of two, or ten seconds if that is shorter. There is a product that fits,
and it is right, unless it is at least ten seconds anyway. Later attempts wait no shorter. The
pauses that a fetch notes are those of its attempts, one after the other. -/
theorem delay_ideal :
    (∀ attempt, delay attempt = .ofLength (min (200 * 2 ^ attempt) 10000 * 1000000)) ∧
    (∀ attempt, 10000 ≤ 200 * 2 ^ attempt ∨
      grownPause? attempt = some (.ofLength (200 * 2 ^ attempt * 1000000))) ∧
    (Monotone fun attempt ↦ (delay attempt).length) ∧
    ∀ (σ : Type) (server : Server σ) (settings : Settings) (url : List Char) (s : σ),
      ∃ r ≤ settings.retries, pauses (fetchText server settings url s).2.notes =
        (List.range r).map fun i ↦ min (200 * 2 ^ i) 10000 := by
  refine ⟨delay_eq, fun attempt ↦ ?_, delay_mono, fun σ server settings url s ↦ ?_⟩
  · rcases Nat.lt_or_ge attempt 32 with hlt | hge
    · exact .inr (grownPause?_of_lt hlt)
    · exact .inl (le_of_width_le hge)
  · obtain ⟨r, hr, hpauses⟩ := exists_pauses_fetchFrom server url settings.retries 0 s
    refine ⟨r, hr, hpauses.trans ?_⟩
    simp only [Nat.zero_add, pause_eq]

end Player

end Unscramble

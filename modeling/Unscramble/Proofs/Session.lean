import Mathlib.Data.List.Basic
import Mathlib.Order.Monotone.Basic
import Unscramble.Proofs.Unscrambler.PlayerScript
import Unscramble.Session

/-!
# A session is transparent

A session answers a request as reading the script would, and what it remembers can be told from what
it was asked and has answered: `Transparent` says how, for a whole log, without looking at the
session. Nothing is lost from a session but by a reset, so the log is divided into *epochs*, and in
each epoch every script is read with success at most once.

The argument goes through the time at which an unscrambler was read. `ReadAt` says of a query that
it read its script and that an unscrambler was remembered for it, and `get?_before_iff` that a
session remembers exactly what was read in the epoch. Then two answers have one serial if and only
if they go back to one reading, because the number of unscramblers read grows with each reading and
never falls, also not by a reset.

## Main definitions

* `Query`, `Answer`, `ask`, `log`: what can be asked of a session, and what it answers.
* `epoch`, `Gives`, `ReadBefore`: what a log tells.
* `Transparent`: how a log looks from outside.

## Main statements

* `asks`: everything that a query can do.
* `get?_before_iff`: what is remembered was read in the epoch.
* `transparent_log`: every log of a new session is transparent.
-/

namespace Unscramble.Session

/-- Something that a session is asked. -/
inductive Query
  /-- The unscrambler of a script is wanted. -/
  | request (script : List Char)
  /-- The unscrambler of a script is wanted if it is remembered. -/
  | get (script : List Char)
  /-- It is asked whether the unscrambler of a script is remembered. -/
  | knows (script : List Char)
  /-- Everything is to be forgotten. -/
  | reset
  deriving DecidableEq

/-- What a session answers. -/
inductive Answer
  | attempted (attempt : Attempt Failure Learnt)
  | found (learnt? : Option Learnt)
  | known (isKnown : Bool)
  | done

/-- The script that a query is about. -/
def Query.script? : Query → Option (List Char)
  | request script | get script | knows script => some script
  | reset => none

/-- The unscrambler that is handed out with an answer. -/
def Answer.learnt? : Answer → Option Learnt
  | attempted attempt => attempt.outcome.toOption
  | found learnt? => learnt?
  | known _ | done => none

/-- The decisions that are told with an answer. -/
def Answer.trail : Answer → Trail
  | attempted attempt => attempt.trail
  | found _ | known _ | done => []

/-- The session after a query, and its answer. -/
def ask (s : Session) : Query → Session × Answer
  | .request script => ((s.request script).1, .attempted (s.request script).2)
  | .get script => (s, .found (s.get? (.of script)))
  | .knows script => (s, .known (s.knows script))
  | .reset => (s.reset, .done)

/-- What a session is asked, with its answers. -/
def log (s : Session) : List Query → List (Query × Answer)
  | [] => []
  | q :: qs => (q, (s.ask q).2) :: log (s.ask q).1 qs

/-! ### What a log tells -/

section Log

variable (log : List (Query × Answer))

/-- The number of resets before a time. Times with one number are in one epoch. -/
def epoch (i : ℕ) : ℕ :=
  ((log.take i).map Prod.fst).count .reset

/-- The answer at a time hands out an unscrambler for a script. -/
def Gives (i : ℕ) (script : List Char) (x : Learnt) : Prop :=
  ∃ (q : Query) (a : Answer), log[i]? = some (q, a) ∧ q.script? = some script ∧
    a.learnt? = some x

/-- A request for a script has succeeded before a time and since the last reset. -/
def ReadBefore (i : ℕ) (script : List Char) : Prop :=
  ∃ j < i, ∃ (a : Answer) (x : Learnt), log[j]? = some (Query.request script, a) ∧
    a.learnt? = some x ∧ epoch log j = epoch log i

end Log

/-- A log looks as if nothing were remembered, but for the serials and the decisions that are not
told again. -/
structure Transparent (l : Lookups) (log : List (Query × Answer)) : Prop where
  /-- A request is answered as reading the script alone would be. -/
  request : ∀ (i : ℕ) script (a : Answer), log[i]? = some (Query.request script, a) →
    ∃ attempt, a = .attempted attempt ∧
      attempt.outcome.map Learnt.unscrambler = (Unscrambler.read l script).outcome
  /-- No decision is told for a script that was read in the epoch. -/
  hit : ∀ (i : ℕ) script (a : Answer), log[i]? = some (Query.request script, a) →
    ReadBefore log i script → a.trail = []
  /-- For any other script the decisions are told that reading it alone would tell. -/
  miss : ∀ (i : ℕ) script (a : Answer), log[i]? = some (Query.request script, a) →
    ¬ ReadBefore log i script → a.trail = (Unscrambler.read l script).trail
  /-- An unscrambler is at hand if its script was read in the epoch. -/
  get : ∀ (i : ℕ) script (a : Answer), log[i]? = some (Query.get script, a) →
    ∃ learnt?, a = .found learnt? ∧ (learnt?.isSome ↔ ReadBefore log i script)
  /-- The scripts that are known are those that were read in the epoch. -/
  knows : ∀ (i : ℕ) script (a : Answer), log[i]? = some (Query.knows script, a) →
    ∃ isKnown, a = .known isKnown ∧ (isKnown = true ↔ ReadBefore log i script)
  /-- What is handed out for a script is its unscrambler. -/
  gives : ∀ i script x, Gives log i script x →
    (Unscrambler.read l script).outcome = .ok x.unscrambler
  /-- What is handed out for one script in one epoch is one unscrambler, read once. -/
  same : ∀ i j script x y, Gives log i script x → Gives log j script y →
    epoch log i = epoch log j → x = y
  /-- What is handed out for different scripts or in different epochs is different. -/
  other : ∀ i j s t x y, Gives log i s x → Gives log j t y →
    (s ≠ t ∨ epoch log i ≠ epoch log j) → x.serial ≠ y.serial

/-- No two scripts that are asked about have one fingerprint. -/
def CollisionFree (queries : List Query) : Prop :=
  ∀ s ∈ queries.filterMap Query.script?, ∀ t ∈ queries.filterMap Query.script?,
    Fingerprint.of s = Fingerprint.of t → s = t

instance (queries : List Query) : Decidable (CollisionFree queries) :=
  inferInstanceAs (Decidable (∀ s ∈ queries.filterMap Query.script?,
    ∀ t ∈ queries.filterMap Query.script?, Fingerprint.of s = Fingerprint.of t → s = t))

/-! ### One query -/

/-- Everything that a query can do, with the session afterwards and the answer. -/
inductive Asks (s : Session) : Query → Session → Answer → Prop
  /-- The script is remembered. -/
  | hit {script : List Char} {x : Learnt} (known : s.get? (.of script) = some x) :
      Asks s (.request script) s
        (.attempted ⟨[.planReused (Fingerprint.of script).text], .ok x⟩)
  /-- The script is read, and remembered from then on. -/
  | learnt {script : List Char} {u : Unscrambler} (unknown : s.get? (.of script) = none)
      (outcome : (Unscrambler.read s.lookups script).outcome = .ok u) :
      Asks s (.request script) (s.remember (.of script) u)
        (.attempted ⟨.planWanted (Fingerprint.of script).text (Text.Utf8.size script) ::
          (Unscrambler.read s.lookups script).notes, .ok ⟨s.reads, u⟩⟩)
  /-- The script cannot be read. -/
  | refused {script : List Char} {e : Failure} (unknown : s.get? (.of script) = none)
      (outcome : (Unscrambler.read s.lookups script).outcome = .error e) :
      Asks s (.request script) s
        (.attempted ⟨.planWanted (Fingerprint.of script).text (Text.Utf8.size script) ::
          (Unscrambler.read s.lookups script).notes, .error e⟩)
  | get (script : List Char) : Asks s (.get script) s (.found (s.get? (.of script)))
  | knows (script : List Char) :
      Asks s (.knows script) s (.known (s.get? (.of script)).isSome)
  | reset : Asks s .reset s.reset .done

/-- A remembered script is not read again. -/
theorem request_of_known {s : Session} {script : List Char} {x : Learnt}
    (known : s.get? (.of script) = some x) :
    s.request script = (s, ⟨[.planReused (Fingerprint.of script).text], .ok x⟩) := by
  rw [request]
  simp only [known]

/-- A script that is not remembered is read, and remembered if that succeeds. -/
theorem request_of_ok {s : Session} {script : List Char} {u : Unscrambler}
    (unknown : s.get? (.of script) = none)
    (outcome : (Unscrambler.read s.lookups script).outcome = .ok u) :
    s.request script = (s.remember (.of script) u,
      ⟨.planWanted (Fingerprint.of script).text (Text.Utf8.size script) ::
        (Unscrambler.read s.lookups script).notes, .ok ⟨s.reads, u⟩⟩) := by
  rw [request]
  simp only [unknown, outcome]

/-- A failure to read is passed on and not remembered. -/
theorem request_of_error {s : Session} {script : List Char} {e : Failure}
    (unknown : s.get? (.of script) = none)
    (outcome : (Unscrambler.read s.lookups script).outcome = .error e) :
    s.request script = (s,
      ⟨.planWanted (Fingerprint.of script).text (Text.Utf8.size script) ::
        (Unscrambler.read s.lookups script).notes, .error e⟩) := by
  rw [request]
  simp only [unknown, outcome]

/-- **There is no other way** in which a query can go. -/
theorem asks (s : Session) (q : Query) : Asks s q (s.ask q).1 (s.ask q).2 := by
  cases q with
  | request script =>
    rw [ask]
    cases hknown : s.get? (.of script) with
    | some x =>
      rw [request_of_known hknown]
      exact .hit hknown
    | none =>
      cases hread : (Unscrambler.read s.lookups script).outcome with
      | ok u =>
        rw [request_of_ok hknown hread]
        exact .learnt hknown hread
      | error e =>
        rw [request_of_error hknown hread]
        exact .refused hknown hread
  | get script => exact .get script
  | knows script => exact .knows script
  | reset => exact .reset

theorem get?_remember_self (s : Session) (f : Fingerprint) (u : Unscrambler) :
    (s.remember f u).get? f = some ⟨s.reads, u⟩ :=
  Store.get?_insert_self ..

theorem get?_remember_of_ne (s : Session) {f g : Fingerprint} (u : Unscrambler) (h : g ≠ f) :
    (s.remember f u).get? g = s.get? g :=
  Store.get?_insert_of_ne _ _ h

/-- What a query has to be for `x` to be read for a fingerprint. -/
def Learns (s : Session) (f : Fingerprint) (x : Learnt) : Query → Prop
  | .request script =>
    Fingerprint.of script = f ∧ s.get? (.of script) = none ∧
      (Unscrambler.read s.lookups script).outcome = .ok x.unscrambler ∧ x.serial = s.reads
  | .get _ | .knows _ | .reset => False

section Asks

variable {s t : Session} {q : Query} {a : Answer}

theorem Asks.lookups_eq (h : Asks s q t a) : t.lookups = s.lookups := by
  cases h <;> rfl

theorem Asks.reads_le (h : Asks s q t a) : s.reads ≤ t.reads := by
  cases h with
  | learnt unknown outcome => exact Nat.le_succ _
  | hit | refused | get | knows | reset => exact le_rfl

/-- **What is known after a query** was known before it, unless that was a reset, or it was read
just now. -/
theorem Asks.get?_iff (h : Asks s q t a) {f : Fingerprint} {x : Learnt} :
    t.get? f = some x ↔ (q ≠ .reset ∧ s.get? f = some x) ∨ s.Learns f x q := by
  -- a query that reads nothing with success leaves the session as it is, or empty
  have hstay (hreset : q ≠ .reset) (hnone : ¬ s.Learns f x q) :
      s.get? f = some x ↔ (q ≠ .reset ∧ s.get? f = some x) ∨ s.Learns f x q := by
    rw [and_iff_right hreset, or_iff_left hnone]
  cases h with
  | hit known =>
    refine hstay nofun ?_
    rintro ⟨-, hunknown, -⟩
    rw [known] at hunknown
    cases hunknown
  | refused unknown outcome =>
    refine hstay nofun ?_
    rintro ⟨-, -, hread, -⟩
    rw [outcome] at hread
    cases hread
  | get | knows => exact hstay nofun id
  | reset =>
    refine iff_of_false nofun ?_
    rintro (⟨hreset, -⟩ | hlearns)
    · exact hreset rfl
    · exact hlearns
  | @learnt script u unknown outcome =>
    by_cases hf : f = Fingerprint.of script
    · subst hf
      rw [get?_remember_self]
      constructor
      · intro h
        cases h
        exact .inr ⟨rfl, unknown, outcome, rfl⟩
      · rintro (⟨-, h⟩ | ⟨-, -, hread, hserial⟩)
        · rw [unknown] at h
          cases h
        · have hu : u = x.unscrambler := Except.ok.inj (outcome.symm.trans hread)
          rw [hu, ← hserial]
    · rw [get?_remember_of_ne _ _ hf, and_iff_right (by nofun)]
      refine (or_iff_left ?_).symm
      rintro ⟨hf', -⟩
      exact hf hf'.symm

end Asks

/-! ### A run -/

section Run

variable (l : Lookups) (queries : List Query)

/-- The session before the query at a time. -/
def before (i : ℕ) : Session :=
  (queries.take i).foldl (fun s q ↦ (s.ask q).1) (new l)

/-- The number of resets before a time. -/
def resets (i : ℕ) : ℕ :=
  (queries.take i).count .reset

/-- The query at a time reads its script, and `x` is remembered for it. -/
structure ReadAt (i : ℕ) (script : List Char) (x : Learnt) : Prop where
  asked : queries[i]? = some (.request script)
  unknown : (before l queries i).get? (.of script) = none
  outcome : (Unscrambler.read l script).outcome = .ok x.unscrambler
  serial : x.serial = (before l queries i).reads

end Run

section Run

variable {l : Lookups} {queries : List Query} {i j : ℕ} {q : Query}

theorem before_succ (h : queries[i]? = some q) :
    before l queries (i + 1) = ((before l queries i).ask q).1 := by
  rw [before, List.take_add_one, h, Option.toList_some, List.foldl_append]
  rfl

theorem before_succ_of_none (h : queries[i]? = none) :
    before l queries (i + 1) = before l queries i := by
  rw [before, List.take_add_one, h, Option.toList_none, List.append_nil, before]

theorem resets_succ (h : queries[i]? = some q) :
    resets queries (i + 1) = resets queries i + if q = .reset then 1 else 0 := by
  rw [resets, List.take_add_one, h, Option.toList_some, List.count_append, List.count_singleton,
    resets]
  simp only [beq_iff_eq]

theorem resets_succ_of_none (h : queries[i]? = none) :
    resets queries (i + 1) = resets queries i := by
  rw [resets, List.take_add_one, h, Option.toList_none, List.append_nil, resets]

theorem resets_mono (h : i ≤ j) : resets queries i ≤ resets queries j :=
  ((List.take_prefix_take_left h).sublist.count_le _)

/-- The query at a time takes the session there to the session at the next. -/
theorem asks_before (h : queries[i]? = some q) :
    Asks (before l queries i) q (before l queries (i + 1)) ((before l queries i).ask q).2 :=
  before_succ h ▸ asks _ q

theorem lookups_before (i : ℕ) : (before l queries i).lookups = l := by
  induction i with
  | zero => rfl
  | succ i ih =>
    cases h : queries[i]? with
    | none => rw [before_succ_of_none h, ih]
    | some q => rw [(asks_before h).lookups_eq, ih]

theorem reads_before_mono : Monotone fun i ↦ (before l queries i).reads := by
  refine monotone_nat_of_le_succ fun i ↦ ?_
  cases h : queries[i]? with
  | none => exact (congrArg reads (before_succ_of_none h)).ge
  | some q => exact (asks_before h).reads_le

/-! ### What is remembered -/

theorem ReadAt.query_eq {script : List Char} {x : Learnt} (h : ReadAt l queries i script x)
    (hq : queries[i]? = some q) : q = .request script :=
  Option.some.inj (hq.symm.trans h.asked)

theorem learns_iff_readAt {f : Fingerprint} {x : Learnt} (hq : queries[i]? = some q) :
    (before l queries i).Learns f x q ↔
      ∃ script, ReadAt l queries i script x ∧ Fingerprint.of script = f := by
  constructor
  · intro h
    cases q with
    | request script =>
      obtain ⟨hf, hunknown, hread, hserial⟩ := h
      rw [lookups_before] at hread
      exact ⟨script, ⟨hq, hunknown, hread, hserial⟩, hf⟩
    | get | knows | reset => exact h.elim
  · rintro ⟨script, hread, hf⟩
    obtain rfl := hread.query_eq hq
    refine ⟨hf, hread.unknown, ?_, hread.serial⟩
    rw [lookups_before]
    exact hread.outcome

/-- **What is remembered was read in the epoch.** -/
theorem get?_before_iff {f : Fingerprint} {x : Learnt} :
    (before l queries i).get? f = some x ↔
      ∃ j < i, ∃ script, ReadAt l queries j script x ∧ Fingerprint.of script = f ∧
        resets queries j = resets queries i := by
  induction i with
  | zero =>
    constructor
    · intro h
      cases h
    · rintro ⟨j, hj, -⟩
      exact absurd hj (Nat.not_lt_zero j)
  | succ i ih =>
    rw [Nat.exists_lt_succ_right]
    cases hq : queries[i]? with
    | none =>
      rw [before_succ_of_none hq, resets_succ_of_none hq, ih]
      refine (or_iff_left ?_).symm
      rintro ⟨script, hread, -⟩
      rw [hread.asked] at hq
      cases hq
    | some q =>
      have hresets := resets_succ hq
      rw [(asks_before hq).get?_iff, ih]
      refine or_congr ?_ ?_
      -- what was read earlier is still known, unless this is a reset
      · by_cases hreset : q = .reset
        · rw [if_pos hreset] at hresets
          refine iff_of_false (fun h ↦ h.1 hreset) ?_
          rintro ⟨j, hj, script, -, -, hepoch⟩
          have hle : resets queries j ≤ resets queries i := resets_mono hj.le
          omega
        · rw [if_neg hreset, Nat.add_zero] at hresets
          rw [hresets]
          exact and_iff_right hreset
      -- and what is read now is known from now on
      · rw [learns_iff_readAt hq]
        refine exists_congr fun script ↦ and_congr_right fun hread ↦ ?_
        rw [hresets, hread.query_eq hq]
        exact (and_iff_left rfl).symm

/-! ### One reading for each script and epoch -/

variable {s t script : List Char} {x y : Learnt}

theorem ReadAt.not_lt (h : ReadAt l queries i s x) (h' : ReadAt l queries j t y)
    (hf : Fingerprint.of s = Fingerprint.of t) (he : resets queries i = resets queries j) :
    ¬ i < j := by
  intro hlt
  have hknown : (before l queries j).get? (.of t) = some x :=
    get?_before_iff.2 ⟨i, hlt, s, h, hf, he⟩
  rw [h'.unknown] at hknown
  cases hknown

/-- A fingerprint is read for at most once in an epoch. -/
theorem ReadAt.eq_of_epoch (h : ReadAt l queries i s x) (h' : ReadAt l queries j t y)
    (hf : Fingerprint.of s = Fingerprint.of t) (he : resets queries i = resets queries j) :
    i = j := by
  have hle : ¬ i < j := h.not_lt h' hf he
  have hge : ¬ j < i := h'.not_lt h hf.symm he.symm
  omega

/-- What happens at a reading. -/
theorem ReadAt.request_eq (h : ReadAt l queries i s x) :
    (before l queries i).request s = ((before l queries i).remember (.of s) x.unscrambler,
      ⟨.planWanted (Fingerprint.of s).text (Text.Utf8.size s) :: (Unscrambler.read l s).notes,
        .ok x⟩) := by
  have hread : (Unscrambler.read (before l queries i).lookups s).outcome = .ok x.unscrambler := by
    rw [lookups_before, h.outcome]
  rw [request_of_ok h.unknown hread, lookups_before, ← h.serial]

theorem ReadAt.serial_lt (h : ReadAt l queries i s x) :
    x.serial < (before l queries (i + 1)).reads := by
  rw [before_succ h.asked, ask, h.request_eq, h.serial]
  exact Nat.lt_succ_self _

/-- Serials grow with each reading. -/
theorem ReadAt.serial_lt_serial (h : ReadAt l queries i s x) (h' : ReadAt l queries j t y)
    (hlt : i < j) : x.serial < y.serial := by
  have hmono : (before l queries (i + 1)).reads ≤ (before l queries j).reads :=
    reads_before_mono hlt
  have hx := h.serial_lt
  have hy := h'.serial
  omega

/-- A serial is given to one reading. -/
theorem ReadAt.eq_of_serial (h : ReadAt l queries i s x) (h' : ReadAt l queries j t y)
    (hserial : x.serial = y.serial) : i = j := by
  rcases Nat.lt_trichotomy i j with hlt | heq | hgt
  · have := h.serial_lt_serial h' hlt
    omega
  · exact heq
  · have := h'.serial_lt_serial h hgt
    omega

theorem ReadAt.script_eq (h : ReadAt l queries i s x) (h' : ReadAt l queries i t y) : s = t :=
  Query.request.inj (h'.query_eq h.asked)

theorem ReadAt.learnt_eq (h : ReadAt l queries i s x) (h' : ReadAt l queries i t y) : x = y := by
  obtain rfl := h.script_eq h'
  have hserial : x.serial = y.serial := h.serial.trans h'.serial.symm
  have hunscrambler : x.unscrambler = y.unscrambler :=
    Except.ok.inj (h.outcome.symm.trans h'.outcome)
  cases x
  cases y
  congr

end Run

/-! ### The log of a run -/

theorem fst_log (s : Session) (queries : List Query) :
    (s.log queries).map Prod.fst = queries := by
  induction queries generalizing s with
  | nil => rfl
  | cons q qs ih => rw [log, List.map_cons, ih]

theorem getElem?_log (s : Session) (queries : List Query) (i : ℕ) :
    (s.log queries)[i]? = queries[i]?.map fun q ↦
      (q, (((queries.take i).foldl (fun s q ↦ (s.ask q).1) s).ask q).2) := by
  induction queries generalizing s i with
  | nil => rfl
  | cons q qs ih =>
    cases i with
    | zero => rfl
    | succ i => exact ih (s.ask q).1 i

section Log

variable {l : Lookups} {queries : List Query} {i : ℕ} {script : List Char} {q : Query}
  {a : Answer} {x : Learnt}

theorem epoch_log (i : ℕ) : epoch ((new l).log queries) i = resets queries i := by
  rw [epoch, List.map_take, fst_log, resets]

/-- What a log tells of a time happened then. -/
theorem asks_of_log (h : ((new l).log queries)[i]? = some (q, a)) :
    queries[i]? = some q ∧
      ∃ t, before l queries (i + 1) = t ∧ Asks (before l queries i) q t a := by
  rw [getElem?_log] at h
  obtain ⟨q', hq, hpair⟩ := Option.map_eq_some_iff.1 h
  obtain ⟨rfl, rfl⟩ := Prod.mk.inj hpair
  exact ⟨hq, _, rfl, asks_before hq⟩

theorem mem_scripts (hq : queries[i]? = some q) (hscript : q.script? = some script) :
    script ∈ queries.filterMap Query.script? :=
  List.mem_filterMap.2 ⟨q, List.mem_of_getElem? hq, hscript⟩

theorem ne_reset_of_script? (h : q.script? = some script) : q ≠ .reset := by
  rintro rfl
  cases h

/-- What is handed out is remembered. -/
theorem Asks.get?_of_learnt? {s t : Session} (h : Asks s q t a) (hscript : q.script? = some script)
    (ha : a.learnt? = some x) : t.get? (.of script) = some x := by
  cases h with
  | hit known =>
    cases hscript
    cases ha
    exact known
  | learnt unknown outcome =>
    cases hscript
    cases ha
    exact get?_remember_self ..
  | get =>
    cases hscript
    exact ha
  | refused | knows => cases ha
  | reset => cases hscript

/-- What is handed out goes back to a reading in the epoch. -/
theorem exists_readAt_of_gives (h : Gives ((new l).log queries) i script x) :
    ∃ j ≤ i, ∃ t, ReadAt l queries j t x ∧ Fingerprint.of t = Fingerprint.of script ∧
      resets queries j = resets queries i := by
  obtain ⟨q, a, hlog, hscript, ha⟩ := h
  obtain ⟨hq, _, rfl, hasks⟩ := asks_of_log hlog
  have hknown := hasks.get?_of_learnt? hscript ha
  obtain ⟨j, hj, t, hread, hf, hepoch⟩ := get?_before_iff.1 hknown
  rw [resets_succ hq, if_neg (ne_reset_of_script? hscript), Nat.add_zero] at hepoch
  exact ⟨j, Nat.le_of_lt_succ hj, t, hread, hf, hepoch⟩

/-- A reading hands out what it has read. -/
theorem ReadAt.gives (h : ReadAt l queries i script x) :
    ∃ a, ((new l).log queries)[i]? = some (.request script, a) ∧ a.learnt? = some x := by
  have hlog : ((new l).log queries)[i]? =
      some (.request script, ((before l queries i).ask (.request script)).2) := by
    rw [getElem?_log, h.asked]
    rfl
  refine ⟨_, hlog, ?_⟩
  rw [ask, h.request_eq]
  rfl

/-! ### Scripts in place of fingerprints -/

section CollisionFree

variable (free : CollisionFree queries)
include free

theorem CollisionFree.script_eq {j : ℕ} {r : Query} {s t : List Char}
    (hq : queries[i]? = some q) (hs : q.script? = some s) (hr : queries[j]? = some r)
    (ht : r.script? = some t) (hf : Fingerprint.of s = Fingerprint.of t) : s = t :=
  free s (mem_scripts hq hs) t (mem_scripts hr ht) hf

/-- What is remembered for a script was read from it. -/
theorem CollisionFree.exists_readAt (hq : queries[i]? = some q) (hscript : q.script? = some script)
    (known : (before l queries i).get? (.of script) = some x) :
    ∃ j < i, ReadAt l queries j script x ∧ resets queries j = resets queries i := by
  obtain ⟨j, hj, t, hread, hf, hepoch⟩ := get?_before_iff.1 known
  obtain rfl : t = script := free.script_eq hread.asked rfl hq hscript hf
  exact ⟨j, hj, hread, hepoch⟩

/-- What is handed out for a script was read from it. -/
theorem CollisionFree.exists_readAt_of_gives (h : Gives ((new l).log queries) i script x) :
    ∃ j, ReadAt l queries j script x ∧ resets queries j = resets queries i := by
  obtain ⟨j, -, t, hread, hf, hepoch⟩ := Session.exists_readAt_of_gives h
  obtain ⟨q, a, hlog, hscript, -⟩ := h
  obtain rfl : t = script := free.script_eq hread.asked rfl (asks_of_log hlog).1 hscript hf
  exact ⟨j, hread, hepoch⟩

/-- The scripts that were read in the epoch are those that are remembered. -/
theorem CollisionFree.readBefore_iff (hq : queries[i]? = some q)
    (hscript : q.script? = some script) :
    ReadBefore ((new l).log queries) i script ↔
      ((before l queries i).get? (.of script)).isSome := by
  rw [Option.isSome_iff_exists]
  constructor
  · rintro ⟨j, hj, a, x, hlog, ha, hepoch⟩
    obtain ⟨k, hk, t, hread, hf, hepoch'⟩ :=
      Session.exists_readAt_of_gives ⟨_, a, hlog, rfl, ha⟩
    rw [epoch_log, epoch_log] at hepoch
    exact ⟨x, get?_before_iff.2
      ⟨k, Nat.lt_of_le_of_lt hk hj, t, hread, hf, hepoch'.trans hepoch⟩⟩
  · rintro ⟨x, known⟩
    obtain ⟨j, hj, hread, hepoch⟩ := free.exists_readAt hq hscript known
    obtain ⟨a, hlog, ha⟩ := hread.gives
    exact ⟨j, hj, a, x, hlog, ha, by rw [epoch_log, epoch_log, hepoch]⟩

end CollisionFree

end Log

/-- **A session is transparent**: for every list of queries, if no two of the scripts in it have one
fingerprint. -/
theorem transparent_log (l : Lookups) (queries : List Query) (free : CollisionFree queries) :
    ((new l).log queries).map Prod.fst = queries ∧ Transparent l ((new l).log queries) where
  left := fst_log _ _
  right := {
    request := by
      intro i script a h
      obtain ⟨hq, t, -, hasks⟩ := asks_of_log h
      cases hasks with
      | @hit _ x known =>
        obtain ⟨j, -, hread, -⟩ := free.exists_readAt hq rfl known
        exact ⟨_, rfl, hread.outcome.symm⟩
      | learnt unknown outcome =>
        rw [lookups_before] at outcome
        exact ⟨_, rfl, outcome.symm⟩
      | refused unknown outcome =>
        rw [lookups_before] at outcome
        exact ⟨_, rfl, outcome.symm⟩
    hit := by
      intro i script a h hread
      obtain ⟨hq, t, -, hasks⟩ := asks_of_log h
      rw [free.readBefore_iff hq rfl] at hread
      cases hasks with
      | hit known => rfl
      | learnt unknown outcome =>
        rw [unknown] at hread
        cases hread
      | refused unknown outcome =>
        rw [unknown] at hread
        cases hread
    miss := by
      intro i script a h hread
      obtain ⟨hq, t, -, hasks⟩ := asks_of_log h
      rw [free.readBefore_iff hq rfl] at hread
      cases hasks with
      | hit known =>
        rw [known] at hread
        exact absurd rfl hread
      | learnt unknown outcome =>
        rw [lookups_before]
        rfl
      | refused unknown outcome =>
        rw [lookups_before]
        rfl
    get := by
      intro i script a h
      obtain ⟨hq, t, -, hasks⟩ := asks_of_log h
      cases hasks with
      | get => exact ⟨_, rfl, (free.readBefore_iff hq rfl).symm⟩
    knows := by
      intro i script a h
      obtain ⟨hq, t, -, hasks⟩ := asks_of_log h
      cases hasks with
      | knows => exact ⟨_, rfl, (free.readBefore_iff hq rfl).symm⟩
    gives := by
      intro i script x h
      obtain ⟨j, hread, -⟩ := free.exists_readAt_of_gives h
      exact hread.outcome
    same := by
      intro i j script x y hx hy hepoch
      obtain ⟨i', hread, hi⟩ := free.exists_readAt_of_gives hx
      obtain ⟨j', hread', hj⟩ := free.exists_readAt_of_gives hy
      rw [epoch_log, epoch_log] at hepoch
      obtain rfl : i' = j' := hread.eq_of_epoch hread' rfl (hi.trans (hepoch.trans hj.symm))
      exact hread.learnt_eq hread'
    other := by
      intro i j s t x y hx hy hother hserial
      obtain ⟨i', hread, hi⟩ := free.exists_readAt_of_gives hx
      obtain ⟨j', hread', hj⟩ := free.exists_readAt_of_gives hy
      obtain rfl : i' = j' := hread.eq_of_serial hread' hserial
      rcases hother with hscript | hepoch
      · exact hscript (hread.script_eq hread')
      · refine hepoch ?_
        rw [epoch_log, epoch_log, ← hi, hj]
  }

/-- Queries about a player script and a text that is none, with a reset. -/
def mixedQueries : List Query :=
  [.request (PlayerScript.ofLength 0).text, .request ['a'], .get (PlayerScript.ofLength 0).text,
    .reset, .knows (PlayerScript.ofLength 0).text, .request (PlayerScript.ofLength 0).text]

/-- No fingerprint is shared by the two texts, of which the player script can be read. -/
theorem transparent_log_mixedQueries :
    (∃ u, (Unscrambler.read .standard (PlayerScript.ofLength 0).text).outcome = .ok u) ∧
      CollisionFree mixedQueries ∧
      ((new .standard).log mixedQueries).map Prod.fst = mixedQueries ∧
      Transparent .standard ((new .standard).log mixedQueries) := by
  have hfits : (PlayerScript.ofLength 0).Fits :=
    PlayerScript.fits_of_length_le _ (by decide) (by decide)
  have free : CollisionFree mixedQueries := by decide +kernel
  exact ⟨⟨_, PlayerScript.outcome_read_text_of_fits _ hfits⟩, free,
    transparent_log .standard mixedQueries free⟩

end Unscramble.Session

import Mathlib.Logic.Function.Iterate
import Unscramble.Media.Response
import Unscramble.Proofs.Media.Stream

/-!
# Signing a response treats every stream on its own

What becomes of a stream when a response is signed depends on the stream alone. So the two lists of
streams are mapped (`result_sign`), and a report counts the streams of each kind (`reportOf`). What
the report accounts for, what an order of the streams does, and what a second round does, all follow
from this.

A second round finds the streams that were signed needing nothing, and those that were refused as
they were, so it refuses them again for the same reason.

## Main definitions

* `Stream.settled`, `Stream.refusal?`: what becomes of a stream, and why it is refused.
* `reportOf`: the report on a list of streams.
* `Response.Accounts`: a report accounts for what has become of a response.
* `Response.rounds`: a response after several rounds.

## Main statements

* `result_sign`: a signed response and its report, stream by stream.
* `sign_accounts`: every stream is accounted for once, in any order of the streams.
* `sign_rounds`: every later round leaves the response as the first round did.
-/

namespace Unscramble.Media

namespace Stream

/-- What becomes of a stream: it is signed if it needs that and can be, and stays as it is
otherwise. -/
def settled (u : Unscrambler) (s : Stream) : Stream :=
  if s.needsSigning then
    match (s.signInPlace u).2.outcome with
    | .ok () => (s.signInPlace u).1
    | .error _ => s
  else s

/-- The itag of a stream that needs signing and cannot be signed, and why. -/
def refusal? (u : Unscrambler) (s : Stream) : Option (UInt32 × Error) :=
  if s.needsSigning then
    match (s.signInPlace u).2.outcome with
    | .ok () => none
    | .error e => some (s.itag, e)
  else none

/-- Whether a stream needs signing and can be signed. -/
def isSigned (u : Unscrambler) (s : Stream) : Bool :=
  s.needsSigning && (s.signInPlace u).2.outcome.isOk

/-- Whether a stream can be fetched as it is. -/
def isUsable (s : Stream) : Bool :=
  !s.needsSigning

end Stream

/-- The report on a list of streams. -/
def reportOf (u : Unscrambler) (l : List Stream) : Report :=
  ⟨l.countP (Stream.isSigned u), l.countP Stream.isUsable, l.filterMap (Stream.refusal? u)⟩

/-! ### One stream -/

namespace Stream

variable {u : Unscrambler} {s : Stream}

/-- What can become of a stream. -/
inductive Fate (u : Unscrambler) (s : Stream) : Prop
  /-- It needs no signing. -/
  | usable (usable : s.needsSigning = false)
  /-- It is signed. -/
  | signed (needed : s.needsSigning = true) (ok : (s.signInPlace u).2.outcome = .ok ())
  /-- It cannot be signed. -/
  | refused (e : Error) (needed : s.needsSigning = true)
      (error : (s.signInPlace u).2.outcome = .error e)

theorem fate (u : Unscrambler) (s : Stream) : Fate u s := by
  cases needed : s.needsSigning with
  | false => exact .usable needed
  | true =>
    cases outcome : (s.signInPlace u).2.outcome with
    | ok r => exact .signed needed outcome
    | error e => exact .refused e needed outcome

theorem settled_of_usable (usable : s.needsSigning = false) : s.settled u = s := by
  simp [settled, usable]

theorem settled_of_ok (needed : s.needsSigning = true)
    (ok : (s.signInPlace u).2.outcome = .ok ()) : s.settled u = (s.signInPlace u).1 := by
  simp [settled, needed, ok]

theorem settled_of_error {e : Error} (error : (s.signInPlace u).2.outcome = .error e) :
    s.settled u = s := by
  simp [settled, error]

theorem reportOf_of_usable (usable : s.needsSigning = false) : reportOf u [s] = ⟨0, 1, []⟩ := by
  simp [reportOf, isSigned, isUsable, refusal?, usable]

theorem reportOf_of_ok (needed : s.needsSigning = true)
    (ok : (s.signInPlace u).2.outcome = .ok ()) : reportOf u [s] = ⟨1, 0, []⟩ := by
  simp [reportOf, isSigned, isUsable, refusal?, needed, ok, Except.isOk, Except.toBool]

theorem reportOf_of_error {e : Error} (needed : s.needsSigning = true)
    (error : (s.signInPlace u).2.outcome = .error e) :
    reportOf u [s] = ⟨0, 0, [(s.itag, e)]⟩ := by
  simp [reportOf, isSigned, isUsable, refusal?, needed, error, Except.isOk, Except.toBool]

/-- Signing a stream where it needs that settles it and reports on it. -/
theorem result_signIfNeeded (u : Unscrambler) (s : Stream) :
    (s.signIfNeeded u).result = (s.settled u, reportOf u [s]) := by
  cases fate u s with
  | usable usable =>
    rw [settled_of_usable usable, reportOf_of_usable usable]
    simp [signIfNeeded, usable]
  | signed needed ok =>
    rw [settled_of_ok needed ok, reportOf_of_ok needed ok]
    simp [signIfNeeded, needed, ok]
  | refused e needed error =>
    -- what is left after a failure is the stream as it was
    have kept := fst_signInPlace_of_error error
    rw [settled_of_error error, reportOf_of_error needed error]
    simp [signIfNeeded, needed, error, kept]

/-- A settled stream stays as it is. -/
theorem settled_settled (u : Unscrambler) (s : Stream) :
    (s.settled u).settled u = s.settled u := by
  cases fate u s with
  | usable usable => rw [settled_of_usable usable, settled_of_usable usable]
  | signed needed ok =>
    have usable := needsSigning_fst_signInPlace ok
    rw [settled_of_ok needed ok, settled_of_usable usable]
  | refused e needed error => rw [settled_of_error error, settled_of_error error]

end Stream

/-! ### A list of streams -/

namespace Report

/-- The report on the same streams after they were signed. -/
def again (r : Report) : Report :=
  ⟨0, r.untouched + r.signed, r.refused⟩

/-- How many streams are accounted for. -/
def total (r : Report) : ℕ :=
  r.signed + r.untouched + r.refused.length

theorem again_append (r t : Report) : (r.append t).again = r.again.append t.again := by
  simp only [again, append, Nat.add_zero, Report.mk.injEq, true_and, and_true]
  omega

theorem total_append (r t : Report) : (r.append t).total = r.total + t.total := by
  simp only [total, append, List.length_append]
  omega

end Report

section Lists

variable (u : Unscrambler)

theorem reportOf_append (l m : List Stream) :
    reportOf u (l ++ m) = (reportOf u l).append (reportOf u m) := by
  simp [reportOf, Report.append]

theorem reportOf_cons (s : Stream) (r : List Stream) :
    reportOf u (s :: r) = (reportOf u [s]).append (reportOf u r) :=
  reportOf_append u [s] r

theorem result_signAll (l : List Stream) :
    (signAll u l).result = (l.map (Stream.settled u), reportOf u l) := by
  induction l with
  | nil => rfl
  | cons s r ih =>
    rw [signAll, reportOf_cons, List.map_cons]
    simp only [ih, s.result_signIfNeeded u]

/-- Every stream is accounted for once. -/
theorem total_reportOf (l : List Stream) : (reportOf u l).total = l.length := by
  induction l with
  | nil => rfl
  | cons s r ih =>
    have hone : (reportOf u [s]).total = 1 := by
      cases s.fate u with
      | usable usable => rw [Stream.reportOf_of_usable usable]; rfl
      | signed needed ok => rw [Stream.reportOf_of_ok needed ok]; rfl
      | refused e needed error => rw [Stream.reportOf_of_error needed error]; rfl
    rw [reportOf_cons, Report.total_append, hone, ih, List.length_cons, Nat.add_comm]

/-- Streams that were signed are untouched by a second round, and those that were refused are
refused again. -/
theorem reportOf_settled (l : List Stream) :
    reportOf u (l.map (Stream.settled u)) = (reportOf u l).again := by
  induction l with
  | nil => rfl
  | cons s r ih =>
    have hone : reportOf u [s.settled u] = (reportOf u [s]).again := by
      cases s.fate u with
      | usable usable =>
        rw [Stream.settled_of_usable usable, Stream.reportOf_of_usable usable]
        rfl
      | signed needed ok =>
        have usable := Stream.needsSigning_fst_signInPlace ok
        rw [Stream.settled_of_ok needed ok, Stream.reportOf_of_usable usable,
          Stream.reportOf_of_ok needed ok]
        rfl
      | refused e needed error =>
        rw [Stream.settled_of_error error, Stream.reportOf_of_error needed error]
        rfl
    rw [List.map_cons, reportOf_cons, reportOf_cons u s, Report.again_append, hone, ih]

end Lists

/-! ### A response -/

namespace Response

/-- The response with other streams. -/
def withStreams (r : Response) (formats adaptiveFormats : List Stream) : Response :=
  { r with streaming := { r.streaming with formats, adaptiveFormats } }

/-- The response after signing it a number of times. -/
def rounds (u : Unscrambler) (n : ℕ) (r : Response) : Response :=
  (fun r ↦ (sign u r).result.1)^[n] r

/-- What has become of a response `r`, and a report that accounts for it. -/
structure Accounts (u : Unscrambler) (r after : Response) (report : Report) : Prop where
  /-- Every stream is counted once. -/
  total : report.signed + report.untouched + report.refused.length = r.streams.length
  /-- Nothing but the two lists has changed. -/
  rest : after = r.withStreams after.streaming.formats after.streaming.adaptiveFormats
  length_formats : after.streaming.formats.length = r.streaming.formats.length
  length_adaptiveFormats :
    after.streaming.adaptiveFormats.length = r.streaming.adaptiveFormats.length
  /-- Every stream is settled in its place. -/
  formats : ∀ (i : ℕ) (s : Stream), r.streaming.formats[i]? = some s →
    after.streaming.formats[i]? = some (s.settled u)
  adaptiveFormats : ∀ (i : ℕ) (s : Stream), r.streaming.adaptiveFormats[i]? = some s →
    after.streaming.adaptiveFormats[i]? = some (s.settled u)
  signed : report.signed = r.streams.countP (Stream.isSigned u)
  untouched : report.untouched = r.streams.countP Stream.isUsable
  /-- The refused streams are listed in order, each with its own reason. -/
  refused : report.refused = r.streams.filterMap (Stream.refusal? u)
  /-- The streams that can be fetched afterwards are those that were signed or needed nothing. -/
  usable : after.streams.countP Stream.isUsable = report.signed + report.untouched

variable (u : Unscrambler) (r : Response)

/-- **Stream by stream.** Signing a response settles every stream in its place and reports on all of
them. -/
theorem result_sign :
    (r.sign u).result =
      (r.withStreams (r.streaming.formats.map (Stream.settled u))
        (r.streaming.adaptiveFormats.map (Stream.settled u)), reportOf u r.streams) := by
  rw [sign, streams, reportOf_append]
  simp only [result_signAll]
  rfl

theorem streams_sign :
    (r.sign u).result.1.streams = r.streams.map (Stream.settled u) := by
  rw [result_sign, streams, streams, List.map_append]
  rfl

/-- A stream is settled in its place. -/
theorem getElem?_map_settled {l : List Stream} {i : ℕ} {s : Stream} (h : l[i]? = some s) :
    (l.map (Stream.settled u))[i]? = some (s.settled u) := by
  rw [List.getElem?_map, h, Option.map_some]

/-- Streams in another order, and what becomes of them. -/
theorem zip_settled_perm {l m : List Stream} (h : m.Perm l) :
    (m.zip (m.map (Stream.settled u))).Perm (l.zip (l.map (Stream.settled u))) := by
  rw [← List.map_prod_left_eq_zip, ← List.map_prod_left_eq_zip]
  exact h.map _

/-- **Every stream is accounted for once**, and is settled in its place by what it is itself. Where
the streams of the two lists come in another order, so do the settled ones with them, and no more of
them are signed or left untouched. -/
theorem sign_accounts :
    Accounts u r (r.sign u).result.1 (r.sign u).result.2 ∧
      ∀ formats adaptiveFormats, formats.Perm r.streaming.formats →
        adaptiveFormats.Perm r.streaming.adaptiveFormats → ∀ after report,
        ((r.withStreams formats adaptiveFormats).sign u).result = (after, report) →
          (formats.zip after.streaming.formats).Perm
              (r.streaming.formats.zip (r.sign u).result.1.streaming.formats) ∧
            (adaptiveFormats.zip after.streaming.adaptiveFormats).Perm
              (r.streaming.adaptiveFormats.zip (r.sign u).result.1.streaming.adaptiveFormats) ∧
            report.signed = (r.sign u).result.2.signed ∧
            report.untouched = (r.sign u).result.2.untouched ∧
            report.refused.Perm (r.sign u).result.2.refused := by
  constructor
  · have husable : ((r.sign u).result.1.streams).countP Stream.isUsable =
        (reportOf u r.streams).again.untouched := by
      rw [streams_sign, ← reportOf_settled]
      rfl
    rw [result_sign] at husable ⊢
    exact {
      total := total_reportOf u r.streams
      rest := rfl
      length_formats := List.length_map _
      length_adaptiveFormats := List.length_map _
      formats := fun _ _ hs ↦ getElem?_map_settled u hs
      adaptiveFormats := fun _ _ hs ↦ getElem?_map_settled u hs
      signed := rfl
      untouched := rfl
      refused := rfl
      usable := husable.trans (Nat.add_comm ..) }
  · intro formats adaptiveFormats hformats hadaptive after report h
    have hstreams : (formats ++ adaptiveFormats).Perm r.streams := hformats.append hadaptive
    rw [result_sign] at h ⊢
    obtain ⟨rfl, rfl⟩ := Prod.mk.inj h
    exact ⟨zip_settled_perm u hformats, zip_settled_perm u hadaptive, hstreams.countP_eq _,
      hstreams.countP_eq _, hstreams.filterMap _⟩

theorem map_settled_settled (l : List Stream) :
    (l.map (Stream.settled u)).map (Stream.settled u) = l.map (Stream.settled u) := by
  rw [List.map_map]
  exact List.map_congr_left fun s _ ↦ s.settled_settled u

/-- A second round leaves the response as it is. -/
theorem result_sign_sign :
    ((r.sign u).result.1.sign u).result = ((r.sign u).result.1, (r.sign u).result.2.again) := by
  rw [result_sign u (r.sign u).result.1, streams_sign, reportOf_settled, result_sign]
  simp only [withStreams, map_settled_settled]

/-- **Signing again changes nothing.** Every later round leaves the response as the first left it,
signs nothing, and refuses what the first refused. -/
theorem sign_rounds (n : ℕ) :
    (sign u (rounds u (n + 1) r)).result =
      ((r.sign u).result.1,
        ⟨0, (r.sign u).result.2.untouched + (r.sign u).result.2.signed,
          (r.sign u).result.2.refused⟩) := by
  have hfixed : rounds u n (r.sign u).result.1 = (r.sign u).result.1 :=
    Function.iterate_fixed (congrArg Prod.fst (r.result_sign_sign u)) n
  have hrounds : rounds u (n + 1) r = (r.sign u).result.1 :=
    (Function.iterate_succ_apply _ n r).trans hfixed
  rw [hrounds]
  exact r.result_sign_sign u

end Response

end Unscramble.Media

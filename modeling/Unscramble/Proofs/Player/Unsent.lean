import Mathlib.Data.List.Basic
import Unscramble.Player.Fetcher

/-!
# Requests that are never sent

Which errors may pass is decided by the error alone. Of those of downloads, all are taken for such
that do not tell of a status: the error of a request that gets no answer, and with it that of a
request that is not sent, because its text is no URL of the web. So an error that is sure to come
again is taken for one that may pass: nothing is sent, nothing is kept, and the fetch goes through
all of its repetitions with a pause before each.

No fetcher can have the text at such a URL, whatever it was asked before. What it keeps was fetched,
and so was sent for. One question keeps it so, and therefore any list of questions does.

## Main definitions

* `Reply.MayPass`: the replies whose error may pass.
* `Fetcher.asked`: a fetcher after a list of questions.
* `Fetcher.KeepsSent`: a fetcher keeps only what was sent for.

## Main statements

* `isTransient_iff`: the errors that may pass.
* `isTransient_request_iff`: the requests whose error may pass.
* `fetchFrom_unsent`: a request that is not sent is repeated as often as is allowed.
* `Fetcher.scriptText_unsent`: the same for a fetcher that was asked any questions before.
-/

namespace Unscramble.Player

/-! ### Errors that may pass -/

/-- **The errors that may pass** are those of downloads that tell of no status, or of one by which
the server is at fault, and those of answers that took too long. -/
theorem isTransient_iff (e : Error) : e.isTransient = true ↔
    (∃ fault, e = .download fault ∧
      (fault.status? = none ∨ ∃ code, fault.status? = some code ∧ 500 ≤ code ∧ code < 600)) ∨
      ∃ detail, e = .timeout detail := by
  constructor
  · intro h
    cases e with
    | download fault => exact .inl ⟨fault, rfl, (DownloadFault.isTransient_iff fault).1 h⟩
    | timeout detail => exact .inr ⟨detail, rfl⟩
    | script _ | notVideo _ | missingField _ | noPlayer | file _ | json _ | url _ => cases h
  · rintro (⟨fault, rfl, hfault⟩ | ⟨detail, rfl⟩)
    · exact (DownloadFault.isTransient_iff fault).2 hfault
    · rfl

/-- A reply whose error may pass: none at all, a late one, or one that blames the server. -/
def Reply.MayPass : Reply → Prop
  | status code _ => 500 ≤ code ∧ code < 600
  | late _ | silence _ => True

/-- The error of a reply may pass exactly for these replies. -/
theorem Reply.isTransient_iff {reply : Reply} {url : List Char} {e : Error}
    (h : reply.text url = .error e) : e.isTransient = true ↔ reply.MayPass := by
  cases reply with
  | status code body =>
    rw [text] at h
    split at h
    · obtain rfl := Except.error.inj h
      rw [Error.isTransient_download, DownloadFault.isTransient_status, MayPass]
    · cases h
  | late detail =>
    obtain rfl := Except.error.inj h
    exact iff_of_true rfl trivial
  | silence detail =>
    obtain rfl := Except.error.inj h
    exact iff_of_true rfl trivial

/-! ### Requests -/

/-- A text that is no URL cannot be sent. -/
theorem target?_of_read_error {url : List Char} {fault : Url.Fault}
    (h : Url.read url = .error fault) : target? url = none := by
  rw [target?, h]

theorem sendFault_of_read_error {url : List Char} {fault : Url.Fault}
    (h : Url.read url = .error fault) : sendFault url = .notUrl fault := by
  rw [sendFault, h]

/-- What is wrong with a text that nothing can be sent to is told without a status. -/
theorem status?_sendFault (url : List Char) : (sendFault url).status? = none := by
  rw [sendFault]
  split <;> rfl

theorem isTransient_sendFault (url : List Char) :
    (Error.download (sendFault url)).isTransient = true := by
  rw [Error.isTransient_download, DownloadFault.isTransient_iff]
  exact .inl (status?_sendFault url)

variable {σ : Type} (server : Server σ) (settings : Settings) {url : List Char}

/-- A request that is not sent leaves the server as it is. -/
theorem request_unsent (h : target? url = none) (s : σ) :
    request server url s = (s, .error (.download (sendFault url))) := by
  rw [request, h]

/-- **The error of a request may pass** if the request was not sent, and else for the reply. -/
theorem isTransient_request_iff {s : σ} {e : Error} (h : (request server url s).2 = .error e) :
    e.isTransient = true ↔
      target? url = none ∨ ∃ target, target? url = some target ∧ (server target s).2.MayPass := by
  rcases htarget : target? url with - | target
  · rw [request_unsent server htarget] at h
    obtain rfl := Except.error.inj h
    exact iff_of_true (isTransient_sendFault url) (.inl rfl)
  · rw [request, htarget] at h
    rw [Reply.isTransient_iff h]
    constructor
    · intro hpass
      exact .inr ⟨target, rfl, hpass⟩
    · rintro (hnone | ⟨target', hsome, hpass⟩)
      · cases hnone
      · obtain rfl := Option.some.inj hsome
        exact hpass

/-! ### Repetitions -/

/-- What is noted before a request is tried again that could not be sent. -/
def unsentNote (url : List Char) (attempt : ℕ) : Note :=
  .requestRepeated (String.ofList url) (Error.download (sendFault url)).message (pause attempt)

/-- **A request that is not sent is repeated as often as is allowed**, with a pause before each
repetition, and nothing comes of it. -/
theorem fetchFrom_unsent (h : target? url = none) (retries attempt : ℕ) (s : σ) :
    fetchFrom server url retries attempt s =
      (s, ⟨(List.range retries).map fun i ↦ unsentNote url (attempt + i),
        .error (.download (sendFault url))⟩) := by
  -- on the repetitions that are left; each is noted in front of the later ones
  induction retries generalizing attempt with
  | zero =>
    rw [fetchFrom, request_unsent server h]
    rfl
  | succ retries ih =>
    have hshift (i : ℕ) : attempt + 1 + i = attempt + (i + 1) := by omega
    rw [fetchFrom, request_unsent server h]
    simp only [isTransient_sendFault, if_true]
    rw [ih, List.range_succ_eq_map, List.map_cons, List.map_map]
    simp only [hshift]
    rfl

theorem fetchText_unsent (h : target? url = none) (s : σ) :
    fetchText server settings url s =
      (s, ⟨(List.range settings.retries).map (unsentNote url),
        .error (.download (sendFault url))⟩) := by
  rw [fetchText, fetchFrom_unsent server h]
  simp only [Nat.zero_add]

/-! ### Fetchers -/

namespace Fetcher

/-- A fetcher after one question. -/
def askedOne (f : Fetcher σ) : Question → Fetcher σ
  | .scriptOf video => (f.scriptUrl server settings video).1
  | .textAt url => (f.scriptText server url settings).1

/-- A fetcher after a list of questions. -/
def asked (f : Fetcher σ) (questions : List Question) : Fetcher σ :=
  questions.foldl (askedOne server settings) f

/-- A fetcher keeps only texts at URLs that a request can be sent to. -/
def KeepsSent (f : Fetcher σ) : Prop :=
  ∀ url text, f.scripts.get? url = some text → target? url ≠ none

theorem keepsSent_new (s : σ) : (new s).KeepsSent :=
  nofun

variable {server settings} {f : Fetcher σ}

/-- One question keeps it so: a text that is new was sent for. -/
theorem KeepsSent.askedOne (h : f.KeepsSent) (q : Question) :
    (f.askedOne server settings q).KeepsSent := by
  rcases q with video | asked
  · exact h
  rw [Fetcher.askedOne, scriptText]
  rcases hknown : f.scripts.get? asked with - | known
  · rcases hfetch : fetchText server settings asked f.state with ⟨s, notes, e | fetched⟩
    · exact h
    · intro url text hkept
      by_cases hurl : url = asked
      · rw [hurl]
        intro hunsent
        rw [fetchText_unsent server settings hunsent] at hfetch
        cases hfetch
      · exact h url text ((Store.get?_insert_of_ne _ _ hurl).symm.trans hkept)
  · exact h

/-- Any list of questions does. -/
theorem KeepsSent.asked (h : f.KeepsSent) (questions : List Question) :
    (f.asked server settings questions).KeepsSent := by
  induction questions generalizing f with
  | nil => exact h
  | cons q questions ih => exact ih (h.askedOne q)

/-- A fetcher that keeps only what was sent for does not change when it is asked for the text at
something else, and goes through all repetitions. -/
theorem KeepsSent.scriptText_eq (h : f.KeepsSent) (hunsent : target? url = none) :
    f.scriptText server url settings =
      (f, ⟨(List.range settings.retries).map (unsentNote url),
        .error (.download (sendFault url))⟩) := by
  have hunknown : f.scripts.get? url = none :=
    Option.eq_none_iff_forall_ne_some.2 fun text hkept ↦ h url text hkept hunsent
  rw [scriptText, hunknown]
  dsimp only
  rw [fetchText_unsent server settings hunsent]

/-- **A text that is no URL is asked for as if the server did not answer**: whatever the fetcher was
asked before, nothing is sent and nothing changes, but the fetch goes through all the repetitions
that are allowed, and fails with an error that may pass. Besides requests that are not sent, only
those have such an error that get no answer, a late one, or one that blames the server. -/
theorem scriptText_unsent (server : Server σ) (settings : Settings) (questions : List Question)
    (s : σ) {url : List Char} {fault : Url.Fault} (h : Url.read url = .error fault) :
    ((new s).asked server settings questions).scriptText server url settings =
        ((new s).asked server settings questions,
          ⟨(List.range settings.retries).map (unsentNote url),
            .error (.download (.notUrl fault))⟩) ∧
      (Error.download (.notUrl fault)).isTransient = true ∧
      (∀ e : Error, e.isTransient = true ↔
        (∃ fault, e = .download fault ∧
          (fault.status? = none ∨ ∃ code, fault.status? = some code ∧ 500 ≤ code ∧ code < 600)) ∨
        ∃ detail, e = .timeout detail) ∧
      ∀ (asked : List Char) (s : σ) (e : Error), (request server asked s).2 = .error e →
        (e.isTransient = true ↔ target? asked = none ∨
          ∃ target, target? asked = some target ∧ (server target s).2.MayPass) := by
  refine ⟨?_, rfl, isTransient_iff, fun _ _ _ hrequest ↦ isTransient_request_iff server hrequest⟩
  rw [((keepsSent_new s).asked questions).scriptText_eq (target?_of_read_error h),
    sendFault_of_read_error h]

/-- A text without a scheme is tried three times if two repetitions are allowed. -/
theorem scriptText_unsent_noScheme :
    Url.read "not a url".toList = .error .noScheme ∧
      ((new ()).scriptText (fun _ s ↦ (s, .silence "no route")) "not a url".toList
          Settings.usual).2 =
        ⟨[unsentNote "not a url".toList 0, unsentNote "not a url".toList 1],
          .error (.download (.notUrl .noScheme))⟩ := by
  have hread : Url.read "not a url".toList = .error .noScheme := by decide
  have hfetch :=
    (scriptText_unsent (fun _ s ↦ (s, .silence "no route")) Settings.usual [] () hread).1
  exact ⟨hread, congrArg Prod.snd hfetch⟩

end Fetcher

end Unscramble.Player

import Mathlib.Data.List.Basic
import Unscramble.Player.Fetcher

/-!
# A script is fetched once

A fetcher keeps every script that it has fetched, and gives it again without asking its server. What
is kept is told apart by the URL alone, so what matters for a question is whether the same URL has
been fetched with success before; nothing else that the fetcher was asked counts. Pages of videos
are not kept, and a fetch that fails leaves nothing behind.

The argument has a step and a run. `Asks` says everything that one question can lead to, with the
requests to the server, which a server with a record counts. `Recalls` says that a fetcher keeps
exactly the texts that were fetched so far, and one question keeps it so.

## Main definitions

* `Server.recorded`: a server that remembers the requests to it.
* `Exchange`, `Fetcher.log`: questions to a fetcher, and what came of them.
* `FetchesOnce`: how a log looks from outside.

## Main statements

* `exists_fetchFrom_recorded`: the requests of a fetch.
* `Fetcher.asks_step`: what one question leads to.
* `Fetcher.Recalls.append`: a fetcher keeps the texts that were fetched.
* `Fetcher.fetchesOnce_log`: every log of a new fetcher.
-/

namespace Unscramble.Player

variable {σ : Type}

/-! ### Requests -/

/-- The server that also remembers the URLs that it was asked for, the last one first. -/
def Server.recorded (server : Server σ) : Server (σ × List (List Char)) :=
  fun url s ↦ (((server url s.1).1, url :: s.2), (server url s.1).2)

/-- The requests that a fetch may send: none if the URL is not one of the web, and else one and some
of the repetitions that are allowed. -/
def AreSent (retries : ℕ) (url : List Char) (sent : List (List Char)) : Prop :=
  match target? url with
  | none => sent = []
  | some target => ∃ n ≤ retries, sent = List.replicate (n + 1) target

section Requests

variable {retries : ℕ} {url : List Char} {sent : List (List Char)}

theorem areSent_once : AreSent retries url (target? url).toList := by
  rw [AreSent]
  rcases target? url with - | target
  · rfl
  · exact ⟨0, Nat.zero_le _, rfl⟩

theorem AreSent.again (h : AreSent retries url sent) :
    AreSent (retries + 1) url (sent ++ (target? url).toList) := by
  rw [AreSent] at h ⊢
  rcases htarget : target? url with - | target
  · rw [htarget] at h
    rw [h]
    rfl
  · rw [htarget] at h
    obtain ⟨n, hn, rfl⟩ := h
    exact ⟨n + 1, Nat.succ_le_succ hn, List.replicate_succ'.symm⟩

/-- The requests of a fetch are the same from behind. -/
theorem AreSent.reverse (h : AreSent retries url sent) : AreSent retries url sent.reverse := by
  rw [AreSent] at h ⊢
  rcases htarget : target? url with - | target
  · rw [htarget] at h
    rw [h]
    rfl
  · rw [htarget] at h
    obtain ⟨n, hn, rfl⟩ := h
    exact ⟨n, hn, List.reverse_replicate⟩

variable (server : Server σ)

theorem request_recorded (url : List Char) (s : σ) (asked : List (List Char)) :
    request server.recorded url (s, asked) =
      (((request server url s).1, (target? url).toList ++ asked), (request server url s).2) := by
  rw [request, request]
  rcases target? url with - | target <;> rfl

/-- **The requests of a fetch** are as many as are allowed, and recording them changes nothing. -/
theorem exists_fetchFrom_recorded (url : List Char) (retries attempt : ℕ) (s : σ)
    (asked : List (List Char)) :
    ∃ sent, AreSent retries url sent ∧
      fetchFrom server.recorded url retries attempt (s, asked) =
        (((fetchFrom server url retries attempt s).1, sent ++ asked),
          (fetchFrom server url retries attempt s).2) := by
  -- on the number of repetitions that are left
  induction retries generalizing attempt s asked with
  | zero =>
    refine ⟨_, areSent_once, ?_⟩
    rw [fetchFrom, fetchFrom, request_recorded]
  | succ retries ih =>
    rw [fetchFrom, fetchFrom, request_recorded]
    rcases request server url s with ⟨s', e | text⟩
    · by_cases htransient : e.isTransient = true
      · obtain ⟨sent, hsent, hlater⟩ := ih (attempt + 1) s' ((target? url).toList ++ asked)
        refine ⟨_, hsent.again, ?_⟩
        simp only [htransient, if_true, hlater, List.append_assoc]
      · refine ⟨_, areSent_once, ?_⟩
        simp only [if_neg htransient]
    · exact ⟨_, areSent_once, rfl⟩

end Requests

/-- A URL was fetched from a server: its state before and afterwards, the outcome, and the
requests. -/
structure IsFetch (server : Server σ) (settings : Settings) (url : List Char) (s s' : σ)
    (outcome : Except Error (List Char)) (sent : List (List Char)) : Prop where
  state : (fetchText server settings url s).1 = s'
  outcome : (fetchText server settings url s).2.outcome = outcome
  sent : AreSent settings.retries url sent

/-! ### Questions to a fetcher -/

/-- A question to a fetcher, with what came of it. -/
structure Exchange (σ : Type) where
  question : Question
  /-- The fetcher before the question. -/
  before : Fetcher σ
  answer : Except Error (List Char)
  /-- The fetcher after the question. -/
  after : Fetcher σ
  /-- The URLs that the server was asked for, in order. -/
  sent : List (List Char)

namespace Fetcher

/-- The fetcher after a question, and the answer. -/
def answer (server : Server σ) (settings : Settings) (f : Fetcher σ) :
    Question → Fetcher σ × Except Error (List Char)
  | .scriptOf video =>
    let (f, url) := f.scriptUrl server settings video
    (f, url.outcome)
  | .textAt url =>
    let (f, text) := f.scriptText server url settings
    (f, text.outcome)

/-- The fetcher with a record of the requests to its server, of which there are none yet. -/
def recorded (f : Fetcher σ) : Fetcher (σ × List (List Char)) :=
  ⟨(f.state, []), f.scripts⟩

/-- What comes of a question. -/
def step (server : Server σ) (settings : Settings) (q : Question) (f : Fetcher σ) : Exchange σ :=
  let (after, answer) := f.recorded.answer server.recorded settings q
  ⟨q, f, answer, ⟨after.state.1, after.scripts⟩, after.state.2.reverse⟩

/-- What comes of a list of questions. -/
def log (server : Server σ) (settings : Settings) : List Question → Fetcher σ → List (Exchange σ)
  | [], _ => []
  | q :: qs, f =>
    step server settings q f :: log server settings qs (step server settings q f).after

/-! ### One question -/

/-- Everything that a question to a fetcher can lead to. -/
inductive Asks (server : Server σ) (settings : Settings) (f : Fetcher σ) : Exchange σ → Prop
  /-- The text is kept. -/
  | kept {url text : List Char} (known : f.scripts.get? url = some text) :
      Asks server settings f ⟨.textAt url, f, .ok text, f, []⟩
  /-- The text is fetched, and kept from then on. -/
  | fetched {url text : List Char} {s : σ} {sent : List (List Char)}
      (unknown : f.scripts.get? url = none)
      (fetch : IsFetch server settings url f.state s (.ok text) sent) :
      Asks server settings f ⟨.textAt url, f, .ok text, ⟨s, f.scripts.insert url text⟩, sent⟩
  /-- The text cannot be fetched. -/
  | refused {url : List Char} {s : σ} {e : Error} {sent : List (List Char)}
      (unknown : f.scripts.get? url = none)
      (fetch : IsFetch server settings url f.state s (.error e) sent) :
      Asks server settings f ⟨.textAt url, f, .error e, ⟨s, f.scripts⟩, sent⟩
  /-- The page of a video is fetched. -/
  | page {video : List Char} {s : σ} {page : Except Error (List Char)} {sent : List (List Char)}
      (fetch : IsFetch server settings (settings.embedUrl video) f.state s page sent) :
      Asks server settings f ⟨.scriptOf video, f,
        page.bind fun text ↦ (settings.scriptUrl text).outcome, ⟨s, f.scripts⟩, sent⟩

section Step

variable (server : Server σ) (settings : Settings) (f : Fetcher σ)

/-- A fetch with a record of the requests. -/
theorem exists_fetchText_recorded (url : List Char) :
    ∃ s outcome notes sent, IsFetch server settings url f.state s outcome sent.reverse ∧
      fetchText server.recorded settings url f.recorded.state = ((s, sent), ⟨notes, outcome⟩) := by
  obtain ⟨sent, hsent, hfetch⟩ :=
    exists_fetchFrom_recorded server url settings.retries 0 f.state []
  rw [List.append_nil] at hfetch
  exact ⟨_, _, _, sent, ⟨rfl, rfl, hsent.reverse⟩, hfetch⟩

theorem question_step (q : Question) : (step server settings q f).question = q := rfl

theorem asks_step (q : Question) : Asks server settings f (step server settings q f) := by
  rcases q with video | url
  · obtain ⟨s, page, notes, sent, hfetch, hrecorded⟩ :=
      exists_fetchText_recorded server settings f (settings.embedUrl video)
    rw [step, answer, scriptUrl, hrecorded]
    rcases page with e | text
    · exact .page hfetch
    · exact .page hfetch
  · have hkeep : f.recorded.scripts = f.scripts := rfl
    rw [step, answer, scriptText, hkeep]
    rcases hknown : f.scripts.get? url with - | text
    · obtain ⟨s, e | text, notes, sent, hfetch, hrecorded⟩ :=
        exists_fetchText_recorded server settings f url
      · simp only [hrecorded]
        exact .refused hknown hfetch
      · simp only [hrecorded]
        exact .fetched hknown hfetch
    · exact .kept hknown

end Step

section Asked

variable {server : Server σ} {settings : Settings} {f : Fetcher σ} {e : Exchange σ}
  {url : List Char}

/-- A text that is kept is given without a request. -/
theorem Asks.of_known {text : List Char} (h : Asks server settings f e)
    (hquestion : e.question = .textAt url) (hknown : f.scripts.get? url = some text) :
    e.answer = .ok text ∧ e.sent = [] ∧ e.after = f := by
  cases h with
  | kept known =>
    obtain rfl := Question.textAt.inj hquestion
    obtain rfl := Option.some.inj (hknown.symm.trans known)
    exact ⟨rfl, rfl, rfl⟩
  | fetched unknown fetch =>
    obtain rfl := Question.textAt.inj hquestion
    cases unknown.symm.trans hknown
  | refused unknown fetch =>
    obtain rfl := Question.textAt.inj hquestion
    cases unknown.symm.trans hknown
  | page fetch => cases hquestion

/-- A text that is not kept is fetched. -/
theorem Asks.of_unknown (h : Asks server settings f e) (hquestion : e.question = .textAt url)
    (hunknown : f.scripts.get? url = none) :
    IsFetch server settings url f.state e.after.state e.answer e.sent := by
  cases h with
  | kept known =>
    obtain rfl := Question.textAt.inj hquestion
    cases hunknown.symm.trans known
  | fetched unknown fetch =>
    obtain rfl := Question.textAt.inj hquestion
    exact fetch
  | refused unknown fetch =>
    obtain rfl := Question.textAt.inj hquestion
    exact fetch
  | page fetch => cases hquestion

/-- Nothing changes for other URLs, and nothing at all if there is no text. -/
theorem Asks.scripts_eq (h : Asks server settings f e) (hquestion : e.question = .textAt url) :
    (∀ other ≠ url, e.after.scripts.get? other = f.scripts.get? other) ∧
      ∀ error, e.answer = .error error → e.after.scripts = f.scripts := by
  cases h with
  | kept known => exact ⟨fun _ _ ↦ rfl, nofun⟩
  | fetched unknown fetch =>
    obtain rfl := Question.textAt.inj hquestion
    exact ⟨fun _ hne ↦ Store.get?_insert_of_ne _ _ hne, nofun⟩
  | refused unknown fetch => exact ⟨fun _ _ ↦ rfl, fun _ _ ↦ rfl⟩
  | page fetch => cases hquestion

/-- The page of a video is fetched, and not kept. -/
theorem Asks.of_scriptOf {video : List Char} (h : Asks server settings f e)
    (hquestion : e.question = .scriptOf video) :
    e.after.scripts = f.scripts ∧ ∃ page,
      IsFetch server settings (settings.embedUrl video) f.state e.after.state page e.sent ∧
      e.answer = page.bind fun text ↦ (settings.scriptUrl text).outcome := by
  cases h with
  | kept known => cases hquestion
  | fetched unknown fetch => cases hquestion
  | refused unknown fetch => cases hquestion
  | page fetch =>
    obtain rfl := Question.scriptOf.inj hquestion
    exact ⟨rfl, _, fetch, rfl⟩

end Asked

/-! ### A list of questions -/

/-- The text at a URL was fetched in the course of some exchanges. -/
def Fetched (past : List (Exchange σ)) (url text : List Char) : Prop :=
  ∃ e ∈ past, e.question = .textAt url ∧ e.answer = .ok text

/-- A fetcher keeps exactly the texts that were fetched in the course of some exchanges. -/
def Recalls (f : Fetcher σ) (past : List (Exchange σ)) : Prop :=
  ∀ url text, f.scripts.get? url = some text ↔ Fetched past url text

variable {server : Server σ} {settings : Settings} {f : Fetcher σ} {past : List (Exchange σ)}

theorem recalls_new (s : σ) : (new s).Recalls [] :=
  fun _ _ ↦ ⟨nofun, fun ⟨_, he, _⟩ ↦ absurd he List.not_mem_nil⟩

theorem fetched_append {e : Exchange σ} {url text : List Char} :
    Fetched (past ++ [e]) url text ↔
      Fetched past url text ∨ e.question = .textAt url ∧ e.answer = .ok text := by
  simp only [Fetched, List.mem_append, List.mem_singleton, or_and_right, exists_or, exists_eq_left]

/-- **A question leaves a fetcher with the texts that were fetched**, that one included. -/
theorem Recalls.append (h : f.Recalls past) {e : Exchange σ} (hasks : Asks server settings f e) :
    e.after.Recalls (past ++ [e]) := by
  intro url text
  rw [fetched_append, ← h url text]
  cases hasks with
  | kept known =>
    refine ⟨.inl, ?_⟩
    rintro (hkept | ⟨⟨⟩, ⟨⟩⟩)
    · exact hkept
    · exact known
  | @fetched url' text' s sent unknown fetch =>
    show (f.scripts.insert url' text').get? url = some text ↔ _
    by_cases hurl : url = url'
    · subst hurl
      rw [Store.get?_insert_self, unknown, Option.some.injEq]
      refine ⟨fun htext ↦ .inr ⟨rfl, congrArg _ htext⟩, ?_⟩
      rintro (hnone | ⟨-, ⟨⟩⟩)
      · cases hnone
      · rfl
    · rw [Store.get?_insert_of_ne _ _ hurl]
      refine ⟨.inl, ?_⟩
      rintro (hkept | ⟨⟨⟩, -⟩)
      · exact hkept
      · exact absurd rfl hurl
  | refused unknown fetch =>
    refine ⟨.inl, ?_⟩
    rintro (hkept | ⟨-, ⟨⟩⟩)
    exact hkept
  | page fetch =>
    refine ⟨.inl, ?_⟩
    rintro (hkept | ⟨⟨⟩, -⟩)
    exact hkept

/-- **Every entry of a log** comes of its question to a fetcher that keeps the texts that were
fetched in the entries before it. -/
theorem of_getElem?_log {questions : List Question} (h : f.Recalls past) {i : ℕ} {e : Exchange σ}
    (he : (log server settings questions f)[i]? = some e) :
    Asks server settings e.before e ∧
      e.before.Recalls (past ++ (log server settings questions f).take i) := by
  -- on the questions; each one is asked of the fetcher that the last one has left
  induction questions generalizing f past i with
  | nil => cases he
  | cons q qs ih =>
    have hasks := asks_step server settings f q
    rcases i with - | i
    · obtain rfl := Option.some.inj he
      refine ⟨hasks, ?_⟩
      rw [List.take_zero, List.append_nil]
      exact h
    · obtain ⟨hlater, hrecalls⟩ := ih (h.append hasks) he
      rw [List.append_assoc] at hrecalls
      exact ⟨hlater, hrecalls⟩

theorem before_eq_after {questions : List Question} {i : ℕ} {e e' : Exchange σ}
    (he : (log server settings questions f)[i]? = some e)
    (he' : (log server settings questions f)[i + 1]? = some e') : e'.before = e.after := by
  induction questions generalizing f i with
  | nil => cases he
  | cons q qs ih =>
    rcases i with - | i
    · obtain rfl := Option.some.inj he
      rcases qs with - | ⟨q', qs⟩
      · cases he'
      · obtain rfl := Option.some.inj he'
        rfl
    · exact ih he he'

/-- How the questions to a fetcher and what comes of them look from outside. -/
structure FetchesOnce (server : Server σ) (settings : Settings) (log : List (Exchange σ)) :
    Prop where
  /-- Each question is asked of the fetcher that the one before it has left. -/
  chained : ∀ (i : ℕ) (e e' : Exchange σ), log[i]? = some e → log[i + 1]? = some e' →
    e'.before = e.after
  /-- A text that was fetched is given again, whatever the server would answer: it is not asked. -/
  kept : ∀ (i j : ℕ) (e e' : Exchange σ) url text, i < j → log[i]? = some e → log[j]? = some e' →
    e.question = .textAt url → e.answer = .ok text → e'.question = .textAt url →
      e'.answer = .ok text ∧ e'.sent = [] ∧ e'.after = e'.before
  /-- A text that has not been fetched so far is fetched, also if that has failed before. -/
  fetched : ∀ (j : ℕ) (e' : Exchange σ) url, log[j]? = some e' → e'.question = .textAt url →
    (∀ i < j, ∀ e, log[i]? = some e → e.question = .textAt url → ∀ text, e.answer ≠ .ok text) →
      IsFetch server settings url e'.before.state e'.after.state e'.answer e'.sent
  /-- A fetch that fails leaves nothing in the fetcher. -/
  failed : ∀ e ∈ log, ∀ url error, e.question = .textAt url → e.answer = .error error →
    e.after.scripts = e.before.scripts
  /-- What the fetcher keeps for other URLs is not touched. -/
  others : ∀ e ∈ log, ∀ url other, e.question = .textAt url → other ≠ url →
    e.after.scripts.get? other = e.before.scripts.get? other
  /-- The page of a video is fetched every time, and nothing of it is kept. -/
  pages : ∀ e ∈ log, ∀ video, e.question = .scriptOf video →
    e.after.scripts = e.before.scripts ∧ ∃ page,
      IsFetch server settings (settings.embedUrl video) e.before.state e.after.state page e.sent ∧
      e.answer = page.bind fun text ↦ (settings.scriptUrl text).outcome

/-- An entry of a new fetcher's log recalls what was fetched in the entries before it. -/
theorem get?_scripts_before_iff {s : σ} {questions : List Question} {j : ℕ} {e' : Exchange σ}
    (he' : (log server settings questions (new s))[j]? = some e') {url text : List Char} :
    e'.before.scripts.get? url = some text ↔ ∃ i < j, ∃ e,
      (log server settings questions (new s))[i]? = some e ∧ e.question = .textAt url ∧
        e.answer = .ok text := by
  rw [(of_getElem?_log (recalls_new s) he').2 url text, List.nil_append]
  constructor
  · rintro ⟨e, hmem, hentry⟩
    obtain ⟨i, he⟩ := List.mem_iff_getElem?.1 hmem
    rw [List.getElem?_take] at he
    split at he
    · next hij => exact ⟨i, hij, e, he, hentry⟩
    · cases he
  · rintro ⟨i, hij, e, he, hentry⟩
    refine ⟨e, List.mem_iff_getElem?.2 ⟨i, ?_⟩, hentry⟩
    rw [List.getElem?_take, if_pos hij, he]

/-- An entry of a log comes of its question to the fetcher before it. -/
theorem asks_of_mem_log {s : σ} {questions : List Question} {e : Exchange σ}
    (he : e ∈ log server settings questions (new s)) : Asks server settings e.before e := by
  obtain ⟨i, hi⟩ := List.mem_iff_getElem?.1 he
  exact (of_getElem?_log (recalls_new s) hi).1

/-- **A script is fetched once**, whatever else a fetcher is asked and however its server
answers. -/
theorem fetchesOnce_log (server : Server σ) (settings : Settings) (questions : List Question)
    (s : σ) : FetchesOnce server settings (log server settings questions (new s)) where
  chained := fun _ _ _ ↦ before_eq_after
  kept := by
    intro i j e e' url text hij he he' hquestion hanswer hquestion'
    have hknown := (get?_scripts_before_iff he').2 ⟨i, hij, e, he, hquestion, hanswer⟩
    exact (of_getElem?_log (recalls_new s) he').1.of_known hquestion' hknown
  fetched := by
    intro j e' url he' hquestion' hnot
    refine (of_getElem?_log (recalls_new s) he').1.of_unknown hquestion' ?_
    -- what the fetcher keeps would have been fetched in an earlier entry
    rw [Option.eq_none_iff_forall_ne_some]
    intro text hknown
    obtain ⟨i, hij, e, he, hquestion, hanswer⟩ := (get?_scripts_before_iff he').1 hknown
    exact hnot i hij e he hquestion text hanswer
  failed := fun _ he _ error hquestion ↦ ((asks_of_mem_log he).scripts_eq hquestion).2 error
  others := fun _ he _ other hquestion ↦ ((asks_of_mem_log he).scripts_eq hquestion).1 other
  pages := fun _ he _ hquestion ↦ (asks_of_mem_log he).of_scriptOf hquestion

/-- A server that has nothing at first. Later it gives the number of the requests before, so that no
two texts of it are the same. -/
def counting : Server ℕ :=
  fun _ n ↦ (n + 1, if n = 0 then .status 404 [] else .status 200 (Nat.toDigits 10 n))

/-- A script that is missing at first is asked for again. Once it is there it is kept, and the
server, which would now give another text, is not asked. -/
theorem fetchesOnce_log_counting :
    ∃ missing there again : Exchange ℕ,
      log counting .usual (List.replicate 3 (.textAt "http://a.b/c".toList)) (new 0) =
        [missing, there, again] ∧
      missing.answer = .error (.download (.status 404 "http://a.b/c")) ∧
      missing.sent = ["http://a.b/c".toList] ∧
      there.answer = .ok ['1'] ∧ there.sent = ["http://a.b/c".toList] ∧
      again.answer = .ok ['1'] ∧ again.sent = [] := by
  obtain ⟨missing, there, again, hlog, hmissing, hthere, hquestions⟩ :
      ∃ missing there again : Exchange ℕ,
        log counting .usual (List.replicate 3 (.textAt "http://a.b/c".toList)) (new 0) =
          [missing, there, again] ∧
        (missing.answer = .error (.download (.status 404 "http://a.b/c")) ∧
          missing.sent = ["http://a.b/c".toList]) ∧
        (there.answer = .ok ['1'] ∧ there.sent = ["http://a.b/c".toList]) ∧
        there.question = .textAt "http://a.b/c".toList ∧
          again.question = .textAt "http://a.b/c".toList :=
    ⟨_, _, _, rfl, by decide +kernel, by decide +kernel, question_step _ _ _ _,
      question_step _ _ _ _⟩
  -- that the last question is not sent follows from the one before it
  have honce := fetchesOnce_log counting .usual
    (List.replicate 3 (.textAt "http://a.b/c".toList)) 0
  rw [hlog] at honce
  obtain ⟨hanswer, hsent, -⟩ :=
    honce.kept 1 2 there again _ _ (by omega) rfl rfl hquestions.1 hthere.1 hquestions.2
  exact ⟨missing, there, again, hlog, hmissing.1, hmissing.2, hthere.1, hthere.2, hanswer, hsent⟩

end Fetcher

end Unscramble.Player

import Mathlib.Data.Set.Function
import Unscramble.Proofs.Session
import Unscramble.Resolver

/-!
# A resolver works as if it remembered nothing

A resolver reads each script once, and asks its source for the text of a script all the same. So a
pipeline that remembers nothing gives the same answers, signs the same streams, and asks the source
the same questions, if the source has fixed answers.

These are three things, which do not need each other. A response is signed as a whole or stays as it
is, whatever the source does. The questions depend on nothing but the request and the answers of the
source. And the answers are those of the pipeline as long as the session remembers for a text what
reading that text gives. `Session.Remembers` says that everything remembered was read from one of
the scripts in question. With no two of them sharing a fingerprint this determines it, and a request
keeps it so.

## Main definitions

* `Pipeline`: where scripts come from and how they are read.
* `Request`, `Answer`, `Entry`: what is asked of a resolver, and what comes of it.
* `Resolver.log`, `Pipeline.log`: a list of requests about one response, with and without a session.
* `Entry.IsFaithful`: a response changes only by being signed.

## Main statements

* `Session.Remembers.request`, `Session.Remembers.outcome_request`: a session that remembers what
  reading gives goes on to do so, and answers accordingly.
* `isFaithful_step`, `asked_step`, `step_spec`: one request.
* `log_eq_pipeline`: every list of requests.
-/

namespace Unscramble

open Unscramble.Media
open Unscramble.Player

/-! ### Sessions that remember what reading gives -/

/-- Everything that a session remembers was read from one of the texts. -/
structure Session.Remembers (s : Session) (l : Lookups) (texts : List (List Char)) : Prop where
  lookups : s.lookups = l
  known : ∀ f x, s.get? f = some x →
    ∃ t ∈ texts, Fingerprint.of t = f ∧ (Unscrambler.read l t).outcome = .ok x.unscrambler

namespace Session

variable {s : Session} {l : Lookups} {texts : List (List Char)} {text : List Char}

theorem remembers_new (l : Lookups) (texts : List (List Char)) : (new l).Remembers l texts where
  lookups := rfl
  known := nofun

/-- A request about one of the texts adds nothing else. -/
theorem Remembers.request (h : s.Remembers l texts) (hmem : text ∈ texts) :
    (s.request text).1.Remembers l texts where
  lookups := (asks s (.request text)).lookups_eq.trans h.lookups
  known := by
    intro f x hknown
    rcases (asks s (.request text)).get?_iff.1 hknown with ⟨-, hbefore⟩ | ⟨hf, -, hread, -⟩
    · exact h.known f x hbefore
    · rw [h.lookups] at hread
      exact ⟨text, hmem, hf, hread⟩

/-- A request is answered as reading the text would be, remembered or not. -/
theorem Remembers.outcome_request (h : s.Remembers l texts)
    (free : {t | t ∈ texts}.InjOn Fingerprint.of) (hmem : text ∈ texts) :
    (s.request text).2.outcome.map Learnt.unscrambler = (Unscrambler.read l text).outcome := by
  rcases hknown : s.get? (.of text) with _ | x
  · rcases hread : (Unscrambler.read s.lookups text).outcome with e | u
    · rw [request_of_error hknown hread, ← h.lookups, hread]
      rfl
    · rw [request_of_ok hknown hread, ← h.lookups, hread]
      rfl
  · -- what is remembered was read from a text with this fingerprint, which is this one
    obtain ⟨t, ht, hf, hread⟩ := h.known _ x hknown
    obtain rfl : t = text := free ht hmem hf
    rw [request_of_known hknown, hread]
    rfl

end Session

/-! ### Requests and the pipeline -/

/-- Something that is asked of a resolver about a response. -/
inductive Request
  /-- The URL of the script that plays a video is wanted. -/
  | scriptUrl (video : List Char)
  /-- The unscrambler of the script at a URL is wanted. -/
  | unscrambler (url : List Char)
  /-- The response is to be signed with the script at a URL. -/
  | sign (url : List Char)
  /-- The response is to be signed with the script of a video. -/
  | signFor (video : List Char)
  deriving DecidableEq

/-- The id of the video that a request names, if it names one. -/
def Request.id? : Request → Option (List Char)
  | scriptUrl video | signFor video => (Video.idOf video).toOption
  | unscrambler _ | sign _ => none

/-- The result of a request. -/
inductive Answer
  | url (outcome : Except Error (List Char))
  | unscrambler (outcome : Except Error Unscrambler)
  | report (outcome : Except Error Report)

/-- A request with what came of it. -/
structure Entry where
  request : Request
  /-- The response before the request. -/
  before : Response
  answer : Answer
  /-- The response after the request. -/
  after : Response
  /-- The questions that the source was asked, in order. -/
  asked : List Question

/-- The answers of a source, and how scripts are read. -/
structure Pipeline where
  scriptUrl : List Char → Except Error (List Char)
  scriptText : List Char → Except Error (List Char)
  lookups : Lookups

namespace Pipeline

variable (p : Pipeline)

/-- The source with these answers. -/
def source : Source Unit :=
  .fixed p.scriptUrl p.scriptText

/-- The URL of the script that plays a video. -/
def url (video : List Char) : Except Error (List Char) := do
  let id ← (Video.idOf video).mapError .ofVideo
  p.scriptUrl id

/-- The unscrambler of the script at a URL, read from its text. -/
def unscrambler (url : List Char) : Except Error Unscrambler := do
  let text ← p.scriptText url
  (Unscrambler.read p.lookups text).outcome.mapError .script

/-- A response signed with the script at a URL. -/
def sign (url : List Char) (response : Response) : Response × Except Error Report :=
  match p.unscrambler url with
  | .error e => (response, .error e)
  | .ok u => ((response.sign u).result.1, .ok (response.sign u).result.2)

/-- A response signed with the script of a video. -/
def signFor (video : List Char) (response : Response) : Response × Except Error Report :=
  match p.url video with
  | .error e => (response, .error e)
  | .ok url => p.sign url response

/-- The URL of the script whose text a request takes, if it gets to know it. -/
def url? : Request → Option (List Char)
  | .scriptUrl _ => none
  | .unscrambler url | .sign url => some url
  | .signFor video => (p.url video).toOption

/-- The questions that a request leads to: one for the video, if there is one, and one for the
script, if its URL is known. -/
def questions (q : Request) : List Question :=
  (q.id?.map .scriptOf).toList ++ ((p.url? q).map .textAt).toList

/-- The response after a request, and the answer. -/
def answer (response : Response) : Request → Response × Answer
  | .scriptUrl video => (response, .url (p.url video))
  | .unscrambler url => (response, .unscrambler (p.unscrambler url))
  | .sign url => ((p.sign url response).1, .report (p.sign url response).2)
  | .signFor video => ((p.signFor video response).1, .report (p.signFor video response).2)

/-- What comes of a request. -/
def entry (q : Request) (response : Response) : Entry :=
  ⟨q, response, (p.answer response q).2, (p.answer response q).1, p.questions q⟩

/-- What comes of a list of requests about one response. -/
def log : List Request → Response → List Entry
  | [], _ => []
  | q :: qs, response => p.entry q response :: log qs (p.entry q response).after

/-- The text that the answer to a question brings. -/
def text? : Question → Option (List Char)
  | .scriptOf _ => none
  | .textAt url => (p.scriptText url).toOption

/-- The scripts whose text a list of requests leads to. -/
def texts (requests : List Request) : List (List Char) :=
  requests.flatMap fun q ↦ (p.questions q).filterMap p.text?

variable {p}

theorem questions_signFor_of_error {video : List Char} {e : Error} (h : p.url video = .error e) :
    p.questions (.signFor video) = p.questions (.scriptUrl video) := by
  rw [questions, url?, h]
  rfl

theorem questions_signFor_of_ok {video url : List Char} (h : p.url video = .ok url) :
    p.questions (.signFor video) = p.questions (.scriptUrl video) ++ [.textAt url] := by
  have hurl : p.url? (.signFor video) = some url := by rw [url?, h]; rfl
  rw [questions, hurl]
  show _ = (_ ++ []) ++ _
  rw [List.append_nil]
  rfl

/-- The text of the script at a request's URL is among the answers. -/
theorem mem_texts_of_url? {q : Request} {url text : List Char} (hurl : p.url? q = some url)
    (htext : p.scriptText url = .ok text) : text ∈ (p.questions q).filterMap p.text? := by
  refine List.mem_filterMap.2 ⟨.textAt url, ?_, by rw [text?, htext]; rfl⟩
  rw [questions, hurl]
  exact List.mem_append_right _ (List.mem_singleton.2 rfl)

end Pipeline

/-- A response becomes another one with an outcome: it stays as it is with an error, and with a
report it is signed by an unscrambler. -/
def Signs (before after : Response) : Except Error Report → Prop
  | .error _ => after = before
  | .ok report => ∃ u : Unscrambler, (before.sign u).result = (after, report)

/-- The response of an entry changes only with a report about its streams, and then as an
unscrambler changes it. -/
def Entry.IsFaithful (e : Entry) : Prop :=
  match e.answer with
  | .url _ | .unscrambler _ => e.after = e.before
  | .report outcome => Signs e.before e.after outcome

/-! ### Requests to a resolver -/

namespace Resolver

variable {σ : Type}

/-- The resolver and the response after a request, and the answer. -/
def answer (source : Source σ) (r : Resolver σ) (response : Response) :
    Request → Resolver σ × Response × Answer
  | .scriptUrl video =>
    let (r, url) := r.scriptUrl source video
    (r, response, .url url.outcome)
  | .unscrambler url =>
    let (r, learnt) := r.unscrambler source url
    (r, response, .unscrambler (learnt.outcome.map Learnt.unscrambler))
  | .sign url =>
    let (r, response, report) := r.sign source url response
    (r, response, .report report.outcome)
  | .signFor video =>
    let (r, response, report) := r.signFor source video response
    (r, response, .report report.outcome)

/-- The resolver with a record of the questions to its source, of which there are none yet. -/
def recorded (r : Resolver σ) : Resolver (σ × List Question) :=
  ⟨(r.state, []), r.session⟩

/-- The resolver after a request, and what came of it. -/
def step (source : Source σ) (q : Request) (r : Resolver σ) (response : Response) :
    Resolver σ × Entry :=
  let (r, after, answer) := r.recorded.answer source.recorded response q
  (⟨r.state.1, r.session⟩, ⟨q, response, answer, after, r.state.2.reverse⟩)

/-- What comes of a list of requests about one response. -/
def log (source : Source σ) : List Request → Resolver σ → Response → List Entry
  | [], _, _ => []
  | q :: qs, r, response =>
    (step source q r response).2 ::
      log source qs (step source q r response).1 (step source q r response).2.after

/-! ### The response -/

section Response

variable (source : Source σ) (response : Response) (r : Resolver σ)

theorem signs_sign (url : List Char) : Signs response (sign source url response r).2.1
    (sign source url response r).2.2.outcome := by
  rw [sign]
  rcases r.unscrambler source url with ⟨r', notes, e | x⟩
  · rfl
  · exact ⟨x.unscrambler, rfl⟩

theorem signs_signFor (video : List Char) : Signs response (signFor source video response r).2.1
    (signFor source video response r).2.2.outcome := by
  rw [signFor]
  rcases r.scriptUrl source video with ⟨r', notes, e | url⟩
  · rfl
  · exact signs_sign source response r' url

theorem isFaithful_step (q : Request) : (step source q r response).2.IsFaithful := by
  cases q with
  | scriptUrl video => rfl
  | unscrambler url => rfl
  | sign url => exact signs_sign source.recorded response r.recorded url
  | signFor video => exact signs_signFor source.recorded response r.recorded video

end Response

/-! ### The questions -/

section Questions

variable (p : Pipeline) (r : Resolver (Unit × List Question))

theorem outcome_scriptUrl (video : List Char) :
    (r.scriptUrl p.source.recorded video).2.outcome = p.url video := by
  rw [scriptUrl, Pipeline.url]
  rcases Video.idOf video with fault | id <;> rfl

theorem asked_scriptUrl (video : List Char) : (r.scriptUrl p.source.recorded video).1.state.2 =
    (p.questions (.scriptUrl video)).reverse ++ r.state.2 := by
  rw [scriptUrl, Pipeline.questions, Request.id?]
  rcases Video.idOf video with fault | id <;> rfl

/-- The source is asked for the text of a script whether the session remembers it or not. -/
theorem asked_unscrambler (url : List Char) :
    (r.unscrambler p.source.recorded url).1.state.2 = .textAt url :: r.state.2 := by
  have hsource : p.source.recorded.scriptText url r.state =
      ((r.state.1, .textAt url :: r.state.2), .ofExcept (p.scriptText url)) := rfl
  rw [unscrambler, hsource]
  rcases p.scriptText url with e | text <;> rfl

theorem asked_sign (url : List Char) (response : Response) :
    (r.sign p.source.recorded url response).1.state.2 = .textAt url :: r.state.2 := by
  rw [← asked_unscrambler, sign]
  rcases r.unscrambler p.source.recorded url with ⟨r', notes, e | x⟩ <;> rfl

theorem asked_signFor (video : List Char) (response : Response) :
    (r.signFor p.source.recorded video response).1.state.2 =
      (p.questions (.signFor video)).reverse ++ r.state.2 := by
  have hurl := outcome_scriptUrl p r video
  have hasked := asked_scriptUrl p r video
  rw [signFor]
  rcases hgo : r.scriptUrl p.source.recorded video with ⟨r', notes, e | url⟩
  · rw [hgo] at hurl hasked
    rw [Pipeline.questions_signFor_of_error hurl.symm]
    exact hasked
  · rw [hgo] at hurl hasked
    show (r'.sign p.source.recorded url response).1.state.2 = _
    rw [asked_sign, Pipeline.questions_signFor_of_ok hurl.symm, List.reverse_append,
      List.append_assoc, ← hasked]
    rfl

/-- **The questions of a request** are those of the pipeline, in order. -/
theorem asked_step (q : Request) (r : Resolver Unit) (response : Response) :
    (step p.source q r response).2.asked = p.questions q := by
  have hnone (questions : List Question) : (questions.reverse ++ []).reverse = questions := by
    rw [List.append_nil, List.reverse_reverse]
  cases q with
  | scriptUrl video =>
    exact (congrArg List.reverse (asked_scriptUrl p r.recorded video)).trans (hnone _)
  | unscrambler url => exact congrArg List.reverse (asked_unscrambler p r.recorded url)
  | sign url => exact congrArg List.reverse (asked_sign p r.recorded url response)
  | signFor video =>
    exact (congrArg List.reverse (asked_signFor p r.recorded video response)).trans (hnone _)

end Questions

/-! ### The answers -/

section Answers

variable {p : Pipeline} {texts : List (List Char)}

theorem session_scriptUrl (source : Source σ) (r : Resolver σ) (video : List Char) :
    (r.scriptUrl source video).1.session = r.session := by
  rw [scriptUrl]
  rcases Video.idOf video with fault | id <;> rfl

variable (free : {t | t ∈ texts}.InjOn Fingerprint.of) {r : Resolver (Unit × List Question)}
include free

/-- The unscrambler of a script is the pipeline's. -/
theorem unscrambler_spec {url : List Char} (h : r.session.Remembers p.lookups texts)
    (hmem : ∀ t, p.scriptText url = .ok t → t ∈ texts) :
    (r.unscrambler p.source.recorded url).1.session.Remembers p.lookups texts ∧
      (r.unscrambler p.source.recorded url).2.outcome.map Learnt.unscrambler =
        p.unscrambler url := by
  have hsource : p.source.recorded.scriptText url r.state =
      ((r.state.1, .textAt url :: r.state.2), .ofExcept (p.scriptText url)) := rfl
  rw [unscrambler, hsource, Pipeline.unscrambler]
  rcases htext : p.scriptText url with e | text
  · exact ⟨h, rfl⟩
  · refine ⟨h.request (hmem text htext), ?_⟩
    have hread := h.outcome_request free (hmem text htext)
    show ((r.session.request text).2.outcome.mapError Error.script).map Learnt.unscrambler =
      (Unscrambler.read p.lookups text).outcome.mapError .script
    rw [← hread]
    rcases (r.session.request text).2.outcome with e | x <;> rfl

/-- A response is signed with a script as the pipeline does. -/
theorem sign_spec {url : List Char} (response : Response)
    (h : r.session.Remembers p.lookups texts)
    (hmem : ∀ t, p.scriptText url = .ok t → t ∈ texts) :
    (r.sign p.source.recorded url response).1.session.Remembers p.lookups texts ∧
      ((r.sign p.source.recorded url response).2.1,
        (r.sign p.source.recorded url response).2.2.outcome) = p.sign url response := by
  obtain ⟨hsession, houtcome⟩ := unscrambler_spec free h hmem
  rw [sign, Pipeline.sign, ← houtcome]
  rcases hgo : r.unscrambler p.source.recorded url with ⟨r', notes, e | x⟩
  · rw [hgo] at hsession
    exact ⟨hsession, rfl⟩
  · rw [hgo] at hsession
    exact ⟨hsession, rfl⟩

/-- A response is signed for a video as the pipeline does. -/
theorem signFor_spec {video : List Char} (response : Response)
    (h : r.session.Remembers p.lookups texts)
    (hmem : ∀ url, p.url video = .ok url → ∀ t, p.scriptText url = .ok t → t ∈ texts) :
    (r.signFor p.source.recorded video response).1.session.Remembers p.lookups texts ∧
      ((r.signFor p.source.recorded video response).2.1,
        (r.signFor p.source.recorded video response).2.2.outcome) = p.signFor video response := by
  have hurl := outcome_scriptUrl p r video
  have hsession := session_scriptUrl p.source.recorded r video
  rw [signFor, Pipeline.signFor]
  rcases hgo : r.scriptUrl p.source.recorded video with ⟨r', notes, e | url⟩
  · rw [hgo] at hurl hsession
    rw [← hurl]
    exact ⟨hsession ▸ h, rfl⟩
  · rw [hgo] at hurl hsession
    rw [← hurl]
    exact sign_spec free response (hsession ▸ h) (hmem url hurl.symm)

/-- **One request** gives what the pipeline gives, and the session goes on to remember what reading
gives. -/
theorem step_spec (q : Request) {r : Resolver Unit} (response : Response)
    (h : r.session.Remembers p.lookups texts)
    (hmem : ∀ t ∈ (p.questions q).filterMap p.text?, t ∈ texts) :
    (step p.source q r response).1.session.Remembers p.lookups texts ∧
      (step p.source q r response).2 = p.entry q response := by
  -- a text that is fetched for the request is among the texts
  have hfetched {url : List Char} (hurl : p.url? q = some url) (t : List Char)
      (ht : p.scriptText url = .ok t) : t ∈ texts :=
    hmem t (Pipeline.mem_texts_of_url? hurl ht)
  suffices hanswer : (step p.source q r response).1.session.Remembers p.lookups texts ∧
      ((step p.source q r response).2.after, (step p.source q r response).2.answer) =
        p.answer response q by
    obtain ⟨hsession, hanswer⟩ := hanswer
    refine ⟨hsession, ?_⟩
    rw [Pipeline.entry, ← hanswer, ← asked_step p q r response]
    rfl
  have hreport {outcome outcome' : Response × Except Error Report} (heq : outcome = outcome') :
      (outcome.1, Answer.report outcome.2) = (outcome'.1, .report outcome'.2) := by
    rw [heq]
  cases q with
  | scriptUrl video =>
    refine ⟨?_, ?_⟩
    · exact session_scriptUrl p.source.recorded r.recorded video ▸ h
    · exact congrArg (fun url ↦ (response, Answer.url url)) (outcome_scriptUrl p r.recorded video)
  | unscrambler url =>
    have hspec := unscrambler_spec free (r := r.recorded) h (hfetched rfl)
    exact ⟨hspec.1, congrArg (fun u ↦ (response, Answer.unscrambler u)) hspec.2⟩
  | sign url =>
    have hspec := sign_spec free (r := r.recorded) response h (hfetched rfl)
    exact ⟨hspec.1, hreport hspec.2⟩
  | signFor video =>
    have hspec := signFor_spec free (r := r.recorded) response h
      fun url hurl ↦ hfetched (by rw [Pipeline.url?, hurl]; rfl)
    exact ⟨hspec.1, hreport hspec.2⟩

/-- A list of requests, with any session that remembers what reading gives. -/
theorem log_of_remembers (requests : List Request) {r : Resolver Unit} (response : Response)
    (h : r.session.Remembers p.lookups texts) (hmem : ∀ t ∈ p.texts requests, t ∈ texts) :
    log p.source requests r response = p.log requests response := by
  induction requests generalizing r response with
  | nil => rfl
  | cons q qs ih =>
    rw [Pipeline.texts, List.flatMap_cons, List.forall_mem_append] at hmem
    obtain ⟨hsession, hentry⟩ := step_spec free q response h hmem.1
    rw [log, ih _ hsession hmem.2, hentry]
    rfl

end Answers

/-- Each entry of a list of requests has the questions of its request, and its response changes as
it should. -/
theorem of_mem_log {p : Pipeline} {requests : List Request} {r : Resolver Unit}
    {response : Response} {e : Entry} (h : e ∈ log p.source requests r response) :
    e.asked = p.questions e.request ∧ e.IsFaithful := by
  induction requests generalizing r response with
  | nil => cases h
  | cons q qs ih =>
    rcases List.mem_cons.1 h with rfl | h
    · exact ⟨asked_step p q r response, isFaithful_step p.source response r q⟩
    · exact ih h

/-- **A resolver is a pipeline that remembers nothing**, to those who look at its answers, at the
response and at the questions to its source, for every source with fixed answers and every list of
requests. Only for the answers it matters that no two of the scripts in question have one
fingerprint. -/
theorem log_eq_pipeline (p : Pipeline) (requests : List Request) (response : Response) :
    ({t | t ∈ p.texts requests}.InjOn Fingerprint.of →
      log p.source requests ⟨(), .new p.lookups⟩ response = p.log requests response) ∧
    ∀ e ∈ log p.source requests ⟨(), .new p.lookups⟩ response,
      e.asked = p.questions e.request ∧ e.IsFaithful :=
  ⟨fun free ↦ log_of_remembers free requests response (Session.remembers_new p.lookups _)
    fun _ ht ↦ ht, fun _ he ↦ of_mem_log he⟩

/-- Every video has a player script, and there is one text that cannot be read. -/
def samplePipeline : Pipeline where
  scriptUrl _ := .ok "/p.js".toList
  scriptText url :=
    if url = "/p.js".toList then .ok (PlayerScript.ofLength 0).text
    else if url = "/a.js".toList then .ok ['a']
    else .error .noPlayer
  lookups := .standard

/-- Requests for a video, for a text that names none, and for scripts that are remembered, cannot be
read or cannot be fetched. -/
def sampleRequests : List Request :=
  [.signFor "dQw4w9WgXcQ".toList, .signFor ['?'], .sign "/p.js".toList,
    .scriptUrl "dQw4w9WgXcQ".toList, .unscrambler "/a.js".toList, .sign "/b.js".toList]

/-- A response with a stream to sign. -/
def sampleResponse : Response where
  streaming.formats :=
    [{ itag := 18, signatureCipher := "s=abcdef&sp=sig&url=https%3A%2F%2Fa.b%2Fv".toList }]

/-- Each request leads to the questions that it has to, remembered or not. -/
theorem log_eq_pipeline_sampleRequests :
    {t | t ∈ samplePipeline.texts sampleRequests}.InjOn Fingerprint.of ∧
      log samplePipeline.source sampleRequests ⟨(), .new .standard⟩ sampleResponse =
        samplePipeline.log sampleRequests sampleResponse ∧
      sampleRequests.map samplePipeline.questions =
        [[.scriptOf "dQw4w9WgXcQ".toList, .textAt "/p.js".toList], [],
          [.textAt "/p.js".toList], [.scriptOf "dQw4w9WgXcQ".toList],
          [.textAt "/a.js".toList], [.textAt "/b.js".toList]] := by
  have hfree : ∀ s ∈ samplePipeline.texts sampleRequests,
      ∀ t ∈ samplePipeline.texts sampleRequests, Fingerprint.of s = Fingerprint.of t → s = t := by
    decide +kernel
  have free : {t | t ∈ samplePipeline.texts sampleRequests}.InjOn Fingerprint.of :=
    fun s hs t ht ↦ hfree s hs t ht
  exact ⟨free, (log_eq_pipeline samplePipeline sampleRequests sampleResponse).1 free,
    by decide +kernel⟩

end Resolver

end Unscramble

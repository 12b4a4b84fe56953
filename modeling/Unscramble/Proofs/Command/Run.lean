import Unscramble.Command.Run
import Unscramble.Proofs.Media.Record
import Unscramble.Proofs.Resolver

/-!
# A run is decided by its inputs

What a run tells as results, and how it ends, depends on its script, its inputs and its response
alone. How much is told, and whether decisions are told, matters only for the other channel: what is
told besides the results of inputs and the addresses of streams is told there. So the results of a
run are those of its work (`runLoaded_of_ok`).

The work on inputs is one input after another, each of which gives its result or is counted as
refused. The work on a response gives an address for each stream that needs no signing any more, and
these are the streams that its report counts as signed or untouched (`length_addresses`).

## Main definitions

* `results`: what is told as results.
* `Input.answer?`, `response?`, `addresses`: what the inputs and the response of a run come to.
* `IsDecided`: what a run has to tell as results, and how it has to end.

## Main statements

* `workOnAll_spec`, `workOnFile_spec`: the results of the work, and whether all of it was done.
* `IsDecided.unique`: what decides a run leaves no choice.
* `run_of_file`: every run with the script of a file.
-/

namespace Unscramble.Command

open Unscramble.Media
open Unscramble.Player

/-! ### Results -/

/-- The text of a result. -/
def Said.result? : Said → Option String
  | line .result text => some text
  | line .status _ | summary _ _ => none

/-- What is told as results, in order. -/
def results (said : List Said) : List String :=
  said.filterMap Said.result?

theorem results_append (a b : List Said) : results (a ++ b) = results a ++ results b :=
  List.filterMap_append

theorem results_flatMap {α : Type} (f : α → List Said) (l : List α) :
    results (l.flatMap f) = l.flatMap fun a ↦ results (f a) :=
  List.filterMap_flatMap

theorem results_say (v : Verbosity) (manner : Manner) (text : String) :
    results (say v manner text) = [] := by
  unfold say
  split <;> rfl

theorem results_sayTrailFrom (n : ℕ) (t : Trail) : results (sayTrailFrom n t) = [] := by
  induction t generalizing n with
  | nil => rfl
  | cons d r ih => exact ih (n + 1)

theorem results_sayNotes (o : Options) (notes : List Note) : results (sayNotes o notes) = [] := by
  unfold sayNotes
  split
  · exact results_sayTrailFrom 1 _
  · rfl

theorem results_saySummary (v : Verbosity) (signed refused : ℕ) :
    results (saySummary v signed refused) = [] := by
  unfold saySummary
  split <;> rfl

theorem results_sayCauses (n : ℕ) (causes : List String) :
    results (Complaint.sayCauses n causes) = [] := by
  fun_induction Complaint.sayCauses n causes with
  | case1 cause => rfl
  | case2 n => rfl
  | case3 n cause rest _ ih => exact ih

theorem results_said (c : Complaint) : results c.said = [] := by
  unfold Complaint.said
  split
  · rfl
  · exact results_sayCauses 0 _

/-! ### Inputs -/

/-- What an input becomes, if it can be unscrambled: a cipher a signed URL, and a token its
signature. -/
def Input.answer? (u : Unscrambler) : Input → Option (List Char)
  | query s => do
    let cipher ← (Cipher.read s).toOption
    (cipher.sign u).outcome.toOption
  | token s => (u.run s).2.toOption

theorem toOption_outcome_unscramble (u : Unscrambler) (i : Input) :
    (i.unscramble u).outcome.toOption = i.answer? u := by
  rcases i with s | s
  · rw [Input.unscramble, Attempt.outcome_bind]
    show _ = ((Cipher.read s).toOption).bind fun cipher ↦ (cipher.sign u).outcome.toOption
    cases hread : Cipher.read s <;> simp [Attempt.ofExcept, Except.bind, Except.toOption]
  · show ((u.run s).2.mapError _).toOption = (u.run s).2.toOption
    rcases (u.run s).2 with e | t <;> rfl

/-- One input: its result is told, or it is counted as refused. -/
theorem workOn_spec (v : Verbosity) (u : Unscrambler) (i : Input) :
    results (workOn v u i).said = (i.answer? u).toList.map String.ofList ∧
      ((workOn v u i).refused = 0 ↔ (i.answer? u).isSome) := by
  rw [← toOption_outcome_unscramble]
  rcases hread : (i.unscramble u).outcome with e | t
  · simp [workOn, hread, results_say, Except.toOption]
  · simp [workOn, hread, Except.toOption, results, sayResult, Said.result?]

/-- **Inputs are taken one after another.** -/
theorem workOnAll_spec (v : Verbosity) (u : Unscrambler) (inputs : List Input) :
    results (workOnAll v u inputs).said = (inputs.filterMap (·.answer? u)).map String.ofList ∧
      ((workOnAll v u inputs).refused = 0 ↔ ∀ i ∈ inputs, (i.answer? u).isSome) := by
  induction inputs with
  | nil => exact ⟨rfl, by simp [workOnAll, Work.none]⟩
  | cons i rest ih =>
    obtain ⟨hfirst, hdone⟩ := workOn_spec v u i
    constructor
    · show results ((workOn v u i).said ++ (workOnAll v u rest).said) = _
      rw [results_append, hfirst, ih.1]
      rcases hi : i.answer? u with - | t <;> simp [hi]
    · show (workOn v u i).refused + (workOnAll v u rest).refused = 0 ↔ _
      rw [Nat.add_eq_zero_iff, hdone, ih.2, List.forall_mem_cons]

/-! ### The response -/

/-- How the address of a stream is told. -/
def addressText (s : Stream) : String :=
  s!"itag={s.itag} {String.ofList s.url}"

/-- The addresses of the streams that need no signing once a response is signed, in order. -/
def addresses (u : Unscrambler) (r : Response) : List String :=
  ((r.sign u).result.1.streams.filter (!·.needsSigning)).map addressText

/-- The response in a file, if it is named, can be read and holds one. -/
def response? (files : Files) (info : Option (List Char)) : Option Response := do
  let text ← (files (← info)).toOption
  (Response.decoder.run text).toOption

theorem response?_of_ok {files : Files} {path text : List Char} (h : files path = .ok text) :
    response? files (some path) = (Response.decoder.run text).toOption := by
  simp [response?, h, Except.toOption]

theorem results_sayStream (v : Verbosity) (s : Stream) (video : List Char) :
    results (sayStream v s video) = [addressText s] := by
  unfold sayStream
  split <;> rfl

theorem results_workOnResponse (v : Verbosity) (loaded : Loaded) (r : Response) :
    results (workOnResponse v loaded r).said = addresses loaded.unscrambler r := by
  simp only [workOnResponse, results_append, results_flatMap, results_sayStream, results_say]
  rw [List.flatMap_eq_nil_iff.2 fun _ _ ↦ rfl, List.append_nil, addresses, List.map_eq_flatMap]

/-- There are as many addresses as streams that the report counts as signed or untouched. -/
theorem length_addresses (u : Unscrambler) (r : Response) :
    (addresses u r).length = (r.sign u).result.2.signed + (r.sign u).result.2.untouched := by
  rw [addresses, List.length_map, ← List.countP_eq_length_filter]
  exact (r.sign_accounts u).1.usable

/-- Whether all streams of a response can be signed that need it, where a file is named. -/
def IsComplete (files : Files) (u : Unscrambler) (info : Option (List Char)) : Prop :=
  info.isSome → ∃ r, response? files info = some r ∧ (r.sign u).result.2.refused = []

/-- **The work on a file**: it ends the run unless the file holds a response, and otherwise tells
the addresses of that. -/
theorem workOnFile_spec (v : Verbosity) (files : Files) (loaded : Loaded)
    (info : Option (List Char)) :
    match workOnFile v files loaded info with
    | .error _ => response? files info = none ∧ info.isSome
    | .ok work =>
      results work.said = (response? files info).elim [] (addresses loaded.unscrambler) ∧
        (work.refused = 0 ↔ IsComplete files loaded.unscrambler info) := by
  rcases info with - | path
  · exact ⟨rfl, by simp [Work.none, IsComplete]⟩
  · rcases hfile : files path with fault | text
    · simp [workOnFile, response?, hfile, Except.toOption]
    · rcases hread : Response.decoder.run text with e | r
      · simp [workOnFile, response?_of_ok hfile, hfile, hread, Except.toOption]
      · have hresponse : response? files (some path) = some r := by
          rw [response?_of_ok hfile, hread]
          rfl
        simp only [workOnFile, hfile, hread, hresponse]
        refine ⟨results_workOnResponse v loaded r, ?_⟩
        rw [IsComplete, hresponse]
        simp [workOnResponse]

/-! ### Runs -/

theorem results_fail (said : List Said) (c : Complaint) :
    results (Outcome.fail said c).said = results said := by
  show results (said ++ c.said) = _
  rw [results_append, results_said, List.append_nil]

/-- What is told around the work are no results. -/
theorem results_around (o : Options) (work : Work) {told : List Said} (htold : results told = []) :
    results (told ++ work.said ++ sayNotes o work.notes ++
      saySummary o.verbosity work.signed work.refused) = results work.said := by
  rw [results_append, results_append, results_append, htold, results_sayNotes, results_saySummary,
    List.append_nil, List.append_nil, List.nil_append]

theorem runLoaded_of_error {files : Files} {o : Options} {loaded : Loaded} {c : Complaint}
    (told : List Said) (h : workOnFile o.verbosity files loaded o.info = .error c) :
    runLoaded files o loaded told =
      .fail (told ++ (workOnAll o.verbosity loaded.unscrambler o.inputs).said) c := by
  simp only [runLoaded, h]

/-- A run that has done its work tells the results of that, and ends well if nothing was refused. -/
theorem runLoaded_of_ok {files : Files} {o : Options} {loaded : Loaded} {told : List Said}
    {streams : Work} (htold : results told = [])
    (h : workOnFile o.verbosity files loaded o.info = .ok streams) :
    results (runLoaded files o loaded told).said =
        results (workOnAll o.verbosity loaded.unscrambler o.inputs).said ++ results streams.said ∧
      ((runLoaded files o loaded told).exitCode = 0 ↔
        (workOnAll o.verbosity loaded.unscrambler o.inputs).refused = 0 ∧ streams.refused = 0) := by
  simp only [runLoaded, h, Work.complaint?]
  rw [← Nat.add_eq_zero_iff, ← results_append]
  show _ = results (workOnAll o.verbosity loaded.unscrambler o.inputs ++ streams).said ∧
    (_ ↔ (workOnAll o.verbosity loaded.unscrambler o.inputs ++ streams).refused = 0)
  generalize workOnAll o.verbosity loaded.unscrambler o.inputs ++ streams = work
  rw [← results_around o work htold]
  by_cases hwork : work.refused = 0
  · rw [if_pos hwork]
    exact ⟨rfl, iff_of_true rfl hwork⟩
  · rw [if_neg hwork]
    exact ⟨results_fail .., iff_of_false (by rw [Outcome.exitCode_fail]; decide) hwork⟩

/-- The results of a run are those of its inputs and its response, and it ends well if all of them
could be unscrambled. -/
theorem runLoaded_spec (files : Files) (o : Options) (loaded : Loaded) {told : List Said}
    (htold : results told = []) :
    results (runLoaded files o loaded told).said =
        (o.inputs.filterMap (·.answer? loaded.unscrambler)).map String.ofList ++
          (response? files o.info).elim [] (addresses loaded.unscrambler) ∧
      ((runLoaded files o loaded told).exitCode = 0 ↔
        (∀ i ∈ o.inputs, (i.answer? loaded.unscrambler).isSome) ∧
          IsComplete files loaded.unscrambler o.info) := by
  obtain ⟨hinputs, hdone⟩ := workOnAll_spec o.verbosity loaded.unscrambler o.inputs
  have hfile := workOnFile_spec o.verbosity files loaded o.info
  rcases hwork : workOnFile o.verbosity files loaded o.info with c | streams
  · rw [hwork] at hfile
    obtain ⟨hnone, hsome⟩ := hfile
    rw [runLoaded_of_error told hwork, results_fail, Outcome.exitCode_fail, results_append, htold,
      hinputs, hnone]
    refine ⟨(List.append_nil _).symm, iff_of_false (by decide) fun h ↦ ?_⟩
    obtain ⟨r, hr, -⟩ := h.2 hsome
    exact absurd (hnone.symm.trans hr) (by simp)
  · rw [hwork] at hfile
    obtain ⟨hresults, hcode⟩ := runLoaded_of_ok htold hwork
    rw [hresults, hcode, hinputs, hdone, hfile.1, hfile.2]
    exact ⟨rfl, Iff.rfl⟩

theorem exitCode_runLoaded (files : Files) (o : Options) (loaded : Loaded) (told : List Said) :
    (runLoaded files o loaded told).exitCode = 0 ∨
      (runLoaded files o loaded told).exitCode = 1 := by
  unfold runLoaded
  simp only
  split
  · exact .inr rfl
  · split
    · exact .inl rfl
    · exact .inr rfl

/-! ### The script -/

/-- The script of a file is read as in a fresh session. -/
theorem outcome_loadFile {files : Files} {path script : List Char} (h : files path = .ok script) :
    (∀ e, (Unscrambler.read .standard script).outcome = .error e →
      ∃ c, (loadFile files path).outcome = .error c) ∧
    ∀ u, (Unscrambler.read .standard script).outcome = .ok u →
      (loadFile files path).outcome = .ok ⟨u, none⟩ := by
  have hunknown : (Session.new .standard).get? (.of script) = none := rfl
  simp only [loadFile, h, Except.mapError]
  rw [Attempt.outcome_bind_ok rfl]
  constructor
  · intro e he
    rw [Session.request_of_error hunknown he]
    exact ⟨_, rfl⟩
  · intro u hu
    rw [Session.request_of_ok hunknown hu]
    rfl

variable {σ : Type} {files : Files} {o : Options} {path : List Char}

theorem run_of_error (source : Source σ) (s : σ) (horigin : o.origin = .file path) {c : Complaint}
    (h : (loadFile files path).outcome = .error c) :
    ∃ told, results told = [] ∧ run files source s o = .fail told c := by
  simp only [run, load, horigin, h]
  exact ⟨_, results_sayNotes .., rfl⟩

theorem run_of_ok (source : Source σ) (s : σ) (horigin : o.origin = .file path) {u : Unscrambler}
    (h : (loadFile files path).outcome = .ok ⟨u, none⟩) :
    ∃ told, results told = [] ∧ run files source s o =
      if o.hasNoInputs then .done told else runLoaded files o ⟨u, none⟩ told := by
  simp only [run, load, horigin, h, List.nil_append]
  by_cases hidle : o.hasNoInputs
  · simp only [if_pos hidle]
    refine ⟨_, ?_, rfl⟩
    rw [results_append, results_append, results_sayNotes, results_say, results_say]
    rfl
  · simp only [if_neg hidle]
    refine ⟨_, ?_, rfl⟩
    rw [results_append, results_sayNotes, results_say]
    rfl

/-! ### What decides a run -/

/-- What a run has to tell as results and how it has to end, with an unscrambler, inputs and the
file of a response. -/
structure IsDecided (files : Files) (u : Unscrambler) (inputs : List Input)
    (info : Option (List Char)) (outcome : Outcome) : Prop where
  /-- Where nothing is asked for, nothing is told, and nothing fails. -/
  idle : inputs = [] → info = none → results outcome.said = [] ∧ outcome.exitCode = 0
  /-- The results of the inputs come first, and then the addresses of the response. -/
  told : results outcome.said =
    (inputs.filterMap (·.answer? u)).map String.ofList ++
      (response? files info).elim [] (addresses u)
  /-- The addresses are as many as the streams that were signed or needed no signing. -/
  counted : ∀ r, response? files info = some r →
    (results outcome.said).length = (inputs.filterMap (·.answer? u)).length +
      ((r.sign u).result.2.signed + (r.sign u).result.2.untouched)
  /-- A run ends well if nothing has failed that was asked for. -/
  well : outcome.exitCode = 0 ↔ (∀ i ∈ inputs, (i.answer? u).isSome) ∧ IsComplete files u info
  /-- There is one way only to end otherwise. -/
  code : outcome.exitCode = 0 ∨ outcome.exitCode = 1

variable {u : Unscrambler} {inputs : List Input} {info : Option (List Char)} {a b : Outcome}

/-- Most of what decides a run are its results and whether it ends well. -/
theorem IsDecided.of_told
    (told : results a.said = (inputs.filterMap (·.answer? u)).map String.ofList ++
      (response? files info).elim [] (addresses u))
    (well : a.exitCode = 0 ↔ (∀ i ∈ inputs, (i.answer? u).isSome) ∧ IsComplete files u info)
    (code : a.exitCode = 0 ∨ a.exitCode = 1) : IsDecided files u inputs info a where
  idle hinputs hinfo := by
    subst hinputs hinfo
    exact ⟨told, well.2 ⟨by simp, by simp [IsComplete]⟩⟩
  told := told
  counted r hr := by
    rw [told, hr, List.length_append, List.length_map]
    exact congrArg _ (length_addresses u r)
  well := well
  code := code

/-- Nothing else can be told as results, and there is no other way to end. -/
theorem IsDecided.unique (ha : IsDecided files u inputs info a)
    (hb : IsDecided files u inputs info b) :
    results a.said = results b.said ∧ a.exitCode = b.exitCode := by
  refine ⟨ha.told.trans hb.told.symm, ?_⟩
  have hwell := ha.well.trans hb.well.symm
  rcases ha.code with hzero | hone
  · rw [hzero, hwell.1 hzero]
  · rcases hb.code with hzero | hone'
    · rw [hzero, hwell.2 hzero]
    · rw [hone, hone']

theorem isDecided_run_of_ok (source : Source σ) (s : σ) (horigin : o.origin = .file path)
    (h : (loadFile files path).outcome = .ok ⟨u, none⟩) :
    IsDecided files u o.inputs o.info (run files source s o) := by
  obtain ⟨told, htold, hrun⟩ := run_of_ok source s horigin h
  rw [hrun]
  by_cases hidle : o.hasNoInputs
  · obtain ⟨hinputs, hinfo⟩ : o.inputs = [] ∧ o.info = none := by
      simpa [Options.hasNoInputs] using hidle
    rw [if_pos hidle, hinputs, hinfo]
    exact .of_told htold (iff_of_true rfl ⟨by simp, by simp [IsComplete]⟩) (.inl rfl)
  · obtain ⟨hresults, hwell⟩ := runLoaded_spec files o ⟨u, none⟩ htold
    rw [if_neg hidle]
    exact .of_told hresults hwell (exitCode_runLoaded ..)

/-- **A run is decided by its inputs.** With the script of a file, a run that cannot read the script
gives no results and does not end well. Any other run tells the results of its inputs, one for each
that can be unscrambled, and the addresses of its response, and ends well if nothing failed. How
much is told, whether decisions are told, and all that is meant for servers makes no difference. -/
theorem run_of_file {script : List Char} (horigin : o.origin = .file path)
    (hfile : files path = .ok script) (source source' : Source σ) (s s' : σ) :
    (∀ e, (Unscrambler.read .standard script).outcome = .error e →
      results (run files source s o).said = [] ∧ (run files source s o).exitCode ≠ 0) ∧
    (∀ u, (Unscrambler.read .standard script).outcome = .ok u →
      IsDecided files u o.inputs o.info (run files source s o)) ∧
    ∀ verbose quiet trace timeout baseUrl userAgent,
      let o' := { o with verbose, quiet, trace, timeout, baseUrl, userAgent }
      results (run files source' s' o').said = results (run files source s o).said ∧
        (run files source' s' o').exitCode = (run files source s o).exitCode := by
  obtain ⟨hunread, hread⟩ := outcome_loadFile hfile
  refine ⟨fun e he ↦ ?_, fun u hu ↦ isDecided_run_of_ok source s horigin (hread u hu), ?_⟩
  · obtain ⟨c, hload⟩ := hunread e he
    obtain ⟨told, htold, hrun⟩ := run_of_error source s horigin hload
    rw [hrun, results_fail, Outcome.exitCode_fail]
    exact ⟨htold, by decide⟩
  · intro verbose quiet trace timeout baseUrl userAgent o'
    rcases hscript : (Unscrambler.read .standard script).outcome with e | u
    · obtain ⟨c, hload⟩ := hunread e hscript
      obtain ⟨told, htold, hrun⟩ := run_of_error source s horigin hload
      obtain ⟨told', htold', hrun'⟩ := run_of_error (o := o') source' s' horigin hload
      rw [hrun, hrun', results_fail, results_fail, htold, htold']
      exact ⟨rfl, rfl⟩
    · have hload := hread u hscript
      have hother : IsDecided files u o.inputs o.info (run files source' s' o') :=
        isDecided_run_of_ok (o := o') source' s' horigin hload
      exact hother.unique (isDecided_run_of_ok source s horigin hload)

/-- A file with a script that reverses, and one with a response to sign. -/
def sampleFiles : Files := fun path ↦
  if path = "p.js".toList then .ok (PlayerScript.ofLength 0).text
  else if path = "r.json".toList then .ok Resolver.sampleResponse.value.text
  else .error .missing

/-- A run with a token, a cipher that lacks its address, and a response. -/
def sampleOptions : Options where
  origin := .file "p.js".toList
  inputs := [.token "abc".toList, .query "url=&s=abc".toList]
  info := some "r.json".toList
  trace := true
  timeout := Player.Settings.usual.timeout
  baseUrl := Player.Settings.usual.baseUrl
  userAgent := none
  verbose := true
  quiet := false

/-- A source without any script. -/
def noSource : Source Unit :=
  .fixed (fun _ ↦ .error .noPlayer) fun _ ↦ .error .noPlayer

/-- The token and the stream come out, in this order, and the cipher makes the run fail. -/
theorem run_of_file_sample :
    sampleOptions.origin = .file "p.js".toList ∧
      sampleFiles "p.js".toList = .ok (PlayerScript.ofLength 0).text ∧
      IsDecided sampleFiles (PlayerScript.ofLength 0).learnt sampleOptions.inputs
        sampleOptions.info (run sampleFiles noSource () sampleOptions) ∧
      results (run sampleFiles noSource () sampleOptions).said =
        ["cba", "itag=18 https://a.b/v?sig=fedcba"] ∧
      (run sampleFiles noSource () sampleOptions).exitCode = 1 := by
  have hfits : (PlayerScript.ofLength 0).Fits :=
    PlayerScript.fits_of_length_le _ (by decide) (by decide)
  have hfile : sampleFiles "p.js".toList = .ok (PlayerScript.ofLength 0).text := if_pos rfl
  have hrun := run_of_file (o := sampleOptions) rfl hfile noSource noSource () ()
  have hdecided := hrun.2.1 _ (PlayerScript.outcome_read_text_of_fits _ hfits)
  have hresponse : response? sampleFiles sampleOptions.info = some Resolver.sampleResponse := by
    have htext : sampleFiles "r.json".toList = .ok Resolver.sampleResponse.value.text :=
      (if_neg (by decide)).trans (if_pos rfl)
    have hread := Json.Decoder.run_text Resolver.sampleResponse.decoder_draft
    exact (response?_of_ok htext).trans (congrArg Except.toOption hread)
  have hseen : results (run sampleFiles noSource () sampleOptions).said =
        ["cba", "itag=18 https://a.b/v?sig=fedcba"] := by
    rw [hdecided.told, hresponse]
    decide +kernel
  have hcode : (run sampleFiles noSource () sampleOptions).exitCode = 1 := by
    refine hdecided.code.resolve_left fun hzero ↦ ?_
    have hcipher := (hdecided.well.1 hzero).1 (.query "url=&s=abc".toList) (by decide)
    exact absurd hcipher (by decide +kernel)
  exact ⟨rfl, hfile, hdecided, hseen, hcode⟩

end Unscramble.Command

import Unscramble.Proofs.Command.Run

/-!
# Which decisions a run tells

A run that is asked for its decisions tells them in two goes, each of which numbers its lines from
one on: those made on the script before anything else, and those made on inputs and on the response
at the end, when all is done. No other line of a run begins with the mark of a decision, so what it
has told of them can be read off its lines.

Between the two goes a run can end. If the script cannot be learnt from, nothing was decided in the
meantime. But if the file of a response cannot be read, or holds none, then the inputs have been
worked on by then, and what was decided on them is never told. That is the only way in which
decisions get lost, and a run loses none there only if it had no token to run and no cipher.

## Main definitions

* `decisions`: the lines of a run that tell decisions.
* `numbered`: how decisions are told.
* `workTrail`: what is decided on inputs and on a response.
* `Input.IsRun`: an input on which something is decided.

## Main statements

* `trail_unscramble_ne_nil_iff`: which inputs leave decisions.
* `decisions_runLoaded`: what is told at the end of a run.
* `decisions_run`: what a run with the script of a file tells of its decisions.
-/

namespace Unscramble.Command

open Unscramble.Media
open Unscramble.Player

/-! ### Lines that tell decisions -/

/-- The mark of a decision. -/
def decisionMark : Char := '🔎'

/-- A line that tells a decision. -/
def Said.decision? : Said → Option String
  | line .status text => if text.toList.head? = some decisionMark then some text else none
  | line .result _ | summary _ _ => none

/-- The lines that tell decisions, in order. -/
def decisions (said : List Said) : List String :=
  said.filterMap Said.decision?

/-- How a decision is told. -/
def decisionText (n : ℕ) (d : Decision) : String :=
  s!"🔎 {aligned 3 n}. {d.text}"

/-- How decisions are told: one line for each, in order, with numbers from one on. -/
def numbered (t : Trail) : List String :=
  t.mapIdx fun i d ↦ decisionText (i + 1) d

@[simp] theorem length_numbered (t : Trail) : (numbered t).length = t.length :=
  List.length_mapIdx

theorem decisions_append (a b : List Said) : decisions (a ++ b) = decisions a ++ decisions b :=
  List.filterMap_append

theorem decisions_work_append (a b : Work) :
    decisions (a ++ b).said = decisions a.said ++ decisions b.said :=
  decisions_append a.said b.said

theorem trail_work_append (a b : Work) :
    trail (a ++ b).notes = trail a.notes ++ trail b.notes :=
  List.filterMap_append

theorem decision?_decisionText (n : ℕ) (d : Decision) :
    (Said.line .status (decisionText n d)).decision? = some (decisionText n d) := by
  have hhead : (decisionText n d).toList.head? = some decisionMark := by
    simp only [decisionText, String.toList_append, List.append_assoc]
    rfl
  rw [Said.decision?, if_pos hhead]

theorem decisions_sayTrailFrom (n : ℕ) (t : Trail) :
    decisions (sayTrailFrom n t) = t.mapIdx fun i d ↦ decisionText (n + i) d := by
  induction t generalizing n with
  | nil => rfl
  | cons d t ih =>
    have hshift : (fun (i : ℕ) d ↦ decisionText (n + 1 + i) d) =
        fun i d ↦ decisionText (n + (i + 1)) d := by
      funext i d
      rw [Nat.add_right_comm, Nat.add_assoc]
    rw [List.mapIdx_cons, ← hshift, ← ih]
    exact List.filterMap_cons_some (decision?_decisionText n d)

/-- **A trail is told in order**, with one line for each decision. -/
theorem decisions_sayTrail (t : Trail) : decisions (sayTrail t) = numbered t := by
  rw [sayTrail, decisions_sayTrailFrom, numbered]
  simp only [Nat.add_comm 1]

/-! ### Other lines -/

theorem decision?_of_head? {text : String} (h : text.toList.head? ≠ some decisionMark) :
    (Said.line .status text).decision? = none := by
  rw [Said.decision?, if_neg h]

/-- A line with another mark in front tells no decision. -/
theorem decision?_append (front : String) {text : String} {c : Char}
    (hfront : front.toList.head? = some c) (hc : c ≠ decisionMark) :
    (Said.line .status (front ++ text)).decision? = none := by
  refine decision?_of_head? ?_
  obtain ⟨rest, hrest⟩ := List.head?_eq_some_iff.1 hfront
  rw [String.toList_append, hrest]
  exact fun h ↦ hc (Option.some.inj h)

theorem decisions_say (v : Verbosity) (manner : Manner) (text : String) :
    decisions (say v manner text) = [] := by
  unfold say
  split
  · have hmark : ∃ c, manner.mark.toList.head? = some c ∧ c ≠ decisionMark := by
      cases manner <;> exact ⟨_, rfl, by decide⟩
    obtain ⟨c, hc, hne⟩ := hmark
    exact List.filterMap_cons_none (decision?_append _ hc hne)
  · rfl

theorem decisions_sayResult (text : List Char) : decisions (sayResult text) = [] := rfl

theorem decisions_saySummary (v : Verbosity) (signed refused : ℕ) :
    decisions (saySummary v signed refused) = [] := by
  unfold saySummary
  split <;> rfl

theorem decisions_sayStream (v : Verbosity) (s : Stream) (video : List Char) :
    decisions (sayStream v s video) = [] := by
  unfold sayStream
  split
  · exact List.filterMap_cons_none (decision?_append "  📋 " rfl (by decide))
  · rfl

/-- A number begins with a blank or a digit. -/
theorem exists_head?_aligned (width n : ℕ) :
    ∃ c, (aligned width n).toList.head? = some c ∧ c ≠ decisionMark := by
  have hdigits : (toString n).toList = Nat.toDigits 10 n := Nat.toList_repr
  have htext : (aligned width n).toList =
      List.replicate (width - (toString n).length) ' ' ++ Nat.toDigits 10 n := by
    rw [aligned, String.toList_append, String.toList_ofList, hdigits]
  obtain ⟨c, rest, hc⟩ := List.exists_cons_of_ne_nil
    (List.append_ne_nil_of_right_ne_nil (List.replicate (width - (toString n).length) ' ')
      (Nat.toDigits_ne_nil (n := n) (b := 10)))
  refine ⟨c, by rw [htext, hc]; rfl, ?_⟩
  rintro rfl
  have hmem : decisionMark ∈ List.replicate (width - (toString n).length) ' ' ++
      Nat.toDigits 10 n := by
    rw [hc]
    exact List.mem_cons_self
  rcases List.mem_append.1 hmem with h | h
  · exact absurd (List.eq_of_mem_replicate h) (by decide)
  · exact absurd (Nat.isDigit_of_mem_toDigits (by decide) (by decide) h) (by decide)

theorem decisions_sayCauses (n : ℕ) (causes : List String) :
    decisions (Complaint.sayCauses n causes) = [] := by
  fun_induction Complaint.sayCauses n causes with
  | case1 cause =>
    exact List.filterMap_cons_none (decision?_append "    " rfl (by decide))
  | case2 n => rfl
  | case3 n cause rest _ ih =>
    obtain ⟨c, hc, hne⟩ := exists_head?_aligned 5 n
    have hline : s!"{aligned 5 n}: {Complaint.indented 7 cause}" =
        aligned 5 n ++ (": " ++ Complaint.indented 7 cause) := String.append_assoc
    refine (List.filterMap_cons_none ?_).trans ih
    rw [hline]
    exact decision?_append _ hc hne

theorem decisions_said (c : Complaint) : decisions c.said = [] := by
  have htext : (Said.line .status s!"Error: {c.text}").decision? = none :=
    decision?_append "Error: " rfl (by decide)
  unfold Complaint.said
  refine (List.filterMap_cons_none htext).trans ?_
  split
  · rfl
  · exact decisions_sayCauses 0 _

/-! ### What is decided -/

/-- An input on which something is decided: a token, or a text that holds a cipher. -/
def Input.IsRun : Input → Prop
  | query s => ∃ c, Cipher.read s = .ok c
  | token _ => True

/-- A file is named that cannot be read or holds no response. -/
def lacksResponse (files : Files) (info : Option (List Char)) : Bool :=
  info.isSome && (response? files info).isNone

theorem lacksResponse_of_error {files : Files} {path : List Char} {fault : FileFault}
    (h : files path = .error fault) : lacksResponse files (some path) = true := by
  simp [lacksResponse, response?, h, Except.toOption]

/-- What is decided on inputs and on a response. -/
def workTrail (files : Files) (u : Unscrambler) (inputs : List Input)
    (info : Option (List Char)) : Trail :=
  inputs.flatMap (fun i ↦ (i.unscramble u).trail) ++
    (response? files info).elim [] fun r ↦ trail (r.sign u).notes

/-- A plan decides something on every token, as it has a step. -/
theorem trail_runText_ne_nil (u : Unscrambler) (s : List Char) : (u.runText s).trail ≠ [] := by
  have hnotes : (u.runText s).trail = (u.run s).1 := by
    show ((u.run s).1.map Note.decided).filterMap _ = _
    rw [List.filterMap_map]
    exact List.filterMap_some
  obtain ⟨c, cs, hsteps⟩ := List.exists_cons_of_ne_nil u.plan.steps_ne_nil
  rw [hnotes, Unscrambler.run, hsteps, Unscrambler.runSteps]
  split <;> exact List.cons_ne_nil _ _

/-- **An input leaves decisions** if it is run: it is a token, or it holds a cipher. -/
theorem trail_unscramble_ne_nil_iff (u : Unscrambler) (i : Input) :
    (i.unscramble u).trail ≠ [] ↔ i.IsRun := by
  cases i with
  | token s => exact iff_of_true (trail_runText_ne_nil u s) trivial
  | query s =>
    rcases hread : Cipher.read s with e | c
    · have hnil : ((Input.query s).unscramble u).trail = [] := by
        rw [Input.unscramble, Attempt.trail_bind_error (by rw [hread]; rfl)]
        rfl
      refine iff_of_false (fun h ↦ h hnil) ?_
      rintro ⟨c, hc⟩
      rw [hread] at hc
      cases hc
    · have htrail : ((Input.query s).unscramble u).trail = (u.runText c.token).trail := by
        rw [Input.unscramble, Attempt.trail_bind_ok (by rw [hread]; rfl), Attempt.trail_ofExcept,
          List.nil_append, Cipher.sign]
        rcases hrun : ((u.runText c.token).mapError Error.script).outcome with e | t
        · rw [Attempt.trail_bind_error hrun]
          rfl
        · rw [Attempt.trail_bind_ok hrun, Attempt.trail_ofExcept, List.append_nil]
          rfl
      rw [htrail]
      exact iff_of_true (trail_runText_ne_nil u c.token) ⟨c, hread⟩

/-- The decisions of the work on inputs, one after another. -/
theorem trail_workOnAll (v : Verbosity) (u : Unscrambler) (inputs : List Input) :
    trail (workOnAll v u inputs).notes = inputs.flatMap fun i ↦ (i.unscramble u).trail := by
  induction inputs with
  | nil => rfl
  | cons i rest ih =>
    have hfirst : trail (workOn v u i).notes = (i.unscramble u).trail := by
      unfold workOn
      dsimp only
      split <;> rfl
    rw [workOnAll, trail_work_append, hfirst, ih, List.flatMap_cons]

/-- Without a response nothing is decided exactly if no input is run. -/
theorem workTrail_eq_nil_iff {files : Files} {info : Option (List Char)}
    (h : lacksResponse files info = true) (u : Unscrambler) (inputs : List Input) :
    workTrail files u inputs info = [] ↔ ¬ ∃ i ∈ inputs, i.IsRun := by
  rw [lacksResponse, Bool.and_eq_true, Option.isNone_iff_eq_none] at h
  rw [workTrail, h.2, Option.elim_none, List.append_nil, List.flatMap_eq_nil_iff]
  simp only [← trail_unscramble_ne_nil_iff u, not_exists, not_and, not_not]

/-! ### The work -/

theorem decisions_workOnAll (v : Verbosity) (u : Unscrambler) (inputs : List Input) :
    decisions (workOnAll v u inputs).said = [] := by
  induction inputs with
  | nil => rfl
  | cons i rest ih =>
    have hfirst : decisions (workOn v u i).said = [] := by
      unfold workOn
      dsimp only
      split
      · exact decisions_sayResult _
      · exact decisions_say v .error _
    rw [workOnAll, decisions_work_append, hfirst, ih, List.append_nil]

theorem decisions_flatMap {α : Type} {f : α → List Said} (h : ∀ a, decisions (f a) = [])
    (l : List α) : decisions (l.flatMap f) = [] := by
  rw [decisions, List.filterMap_flatMap]
  exact List.flatMap_eq_nil_iff.2 fun a _ ↦ h a

theorem decisions_workOnResponse (v : Verbosity) (loaded : Loaded) (r : Response) :
    decisions (workOnResponse v loaded r).said = [] := by
  simp only [workOnResponse, decisions_append]
  rw [decisions_flatMap fun s ↦ decisions_sayStream v s _,
    decisions_flatMap fun _ ↦ decisions_say .., List.append_nil]

/-- **The work on a file** ends the run exactly if the file lacks a response. Otherwise no decision
is told yet, and those that are noted are those on the response. -/
theorem workOnFile_notes (v : Verbosity) (files : Files) (loaded : Loaded)
    (info : Option (List Char)) :
    match workOnFile v files loaded info with
    | .error _ => lacksResponse files info = true
    | .ok work => lacksResponse files info = false ∧ decisions work.said = [] ∧
        trail work.notes =
          (response? files info).elim [] fun r ↦ trail (r.sign loaded.unscrambler).notes := by
  rcases info with - | path
  · exact ⟨rfl, rfl, rfl⟩
  rcases hfile : files path with fault | text
  · simp only [workOnFile, hfile]
    exact lacksResponse_of_error hfile
  rcases hread : Response.decoder.run text with e | r
  · simp [workOnFile, lacksResponse, response?_of_ok hfile, hfile, hread, Except.toOption]
  · have hresponse : response? files (some path) = some r := by
      rw [response?_of_ok hfile, hread]
      rfl
    simp only [workOnFile, lacksResponse, hfile, hread, hresponse]
    exact ⟨rfl, decisions_workOnResponse v loaded r, rfl⟩

/-! ### Runs -/

theorem decisions_sayNotes {o : Options} (htrace : o.trace = true) (notes : List Note) :
    decisions (sayNotes o notes) = numbered (trail notes) := by
  rw [sayNotes, if_pos htrace, decisions_sayTrail]

theorem decisions_fail (said : List Said) (c : Complaint) :
    decisions (Outcome.fail said c).said = decisions said := by
  show decisions (said ++ c.said) = _
  rw [decisions_append, decisions_said, List.append_nil]

/-- A run that has done its work tells what was decided on the way, and then sums up. -/
theorem decisions_runLoaded_of_ok {files : Files} {o : Options} (htrace : o.trace = true)
    {loaded : Loaded} (told : List Said) {streams : Work}
    (h : workOnFile o.verbosity files loaded o.info = .ok streams)
    (hstreams : decisions streams.said = []) :
    decisions (runLoaded files o loaded told).said = decisions told ++
      numbered (trail (workOnAll o.verbosity loaded.unscrambler o.inputs ++ streams).notes) := by
  have hsaid : decisions (workOnAll o.verbosity loaded.unscrambler o.inputs ++ streams).said = [] :=
    by rw [decisions_work_append, decisions_workOnAll, hstreams, List.append_nil]
  simp only [runLoaded, h]
  generalize workOnAll o.verbosity loaded.unscrambler o.inputs ++ streams = work at hsaid ⊢
  have htold : decisions (told ++ work.said ++ sayNotes o work.notes ++
      saySummary o.verbosity work.signed work.refused) =
        decisions told ++ numbered (trail work.notes) := by
    rw [decisions_append, decisions_append, decisions_append, decisions_sayNotes htrace, hsaid,
      decisions_saySummary, List.append_nil, List.append_nil]
  rw [← htold]
  split
  · rfl
  · exact decisions_fail ..

/-- **What is told at the end of a run**: all that was decided on inputs and on the response, unless
the file lacks the response. Then nothing of it is told. -/
theorem decisions_runLoaded (files : Files) {o : Options} (htrace : o.trace = true)
    (loaded : Loaded) (told : List Said) :
    decisions (runLoaded files o loaded told).said = decisions told ++
      if lacksResponse files o.info then []
      else numbered (workTrail files loaded.unscrambler o.inputs o.info) := by
  have hfile := workOnFile_notes o.verbosity files loaded o.info
  rcases hwork : workOnFile o.verbosity files loaded o.info with c | streams
  · rw [hwork] at hfile
    rw [if_pos hfile, runLoaded_of_error told hwork, decisions_fail, decisions_append,
      decisions_workOnAll]
  · rw [hwork] at hfile
    obtain ⟨hcomplete, hsaid, hnotes⟩ := hfile
    rw [hcomplete, if_neg Bool.false_ne_true, decisions_runLoaded_of_ok htrace told hwork hsaid,
      trail_work_append, trail_workOnAll, hnotes, workTrail]

/-! ### The script -/

/-- What is decided on the script of a file is what is decided when it is read. -/
theorem trail_loadFile {files : Files} {path script : List Char} (h : files path = .ok script) :
    (loadFile files path).trail = (Unscrambler.read .standard script).trail := by
  have hunknown : (Session.new .standard).get? (.of script) = none := rfl
  simp only [loadFile, h, Except.mapError]
  rw [Attempt.trail_bind_ok rfl, Attempt.trail_ofExcept, List.nil_append]
  rcases hread : (Unscrambler.read .standard script).outcome with e | u
  · rw [Session.request_of_error hunknown hread, Attempt.trail_bind_error rfl]
    rfl
  · rw [Session.request_of_ok hunknown hread, Attempt.trail_bind_ok rfl, Attempt.trail_pure,
      List.append_nil]
    rfl

section Runs

variable {σ : Type} {files : Files} {o : Options} {path script : List Char}

theorem decisions_loadFile (hfile : files path = .ok script) (htrace : o.trace = true) :
    decisions (sayNotes o (loadFile files path).notes) =
      numbered (Unscrambler.read .standard script).trail := by
  rw [decisions_sayNotes htrace, ← trail_loadFile hfile]
  rfl

/-- A run that learns nothing from its script ends there, after the decisions on it. -/
theorem decisions_run_of_error (source : Source σ) (s : σ) (horigin : o.origin = .file path)
    (hfile : files path = .ok script) (htrace : o.trace = true) {e : Failure}
    (h : (Unscrambler.read .standard script).outcome = .error e) :
    decisions (run files source s o).said =
      numbered (Unscrambler.read .standard script).trail := by
  obtain ⟨c, hload⟩ := (outcome_loadFile hfile).1 e h
  simp only [run, load, horigin, hload, List.nil_append]
  rw [decisions_fail, decisions_loadFile hfile htrace]

/-- Any other run goes on to what is told at its end. -/
theorem decisions_run_of_ok (source : Source σ) (s : σ) (horigin : o.origin = .file path)
    (hfile : files path = .ok script) (htrace : o.trace = true) {u : Unscrambler}
    (h : (Unscrambler.read .standard script).outcome = .ok u) :
    decisions (run files source s o).said =
      numbered (Unscrambler.read .standard script).trail ++
        if lacksResponse files o.info then []
        else numbered (workTrail files u o.inputs o.info) := by
  have hload := (outcome_loadFile hfile).2 u h
  simp only [run, load, horigin, hload, List.nil_append]
  by_cases hidle : o.hasNoInputs
  · obtain ⟨hinputs, hinfo⟩ : o.inputs = [] ∧ o.info = none := by
      simpa [Options.hasNoInputs] using hidle
    have hnone : numbered (workTrail files u o.inputs o.info) = [] := by
      rw [hinputs, hinfo]
      rfl
    simp only [if_pos hidle]
    show decisions (_ ++ _ ++ _) = _
    rw [decisions_append, decisions_append, decisions_loadFile hfile htrace, decisions_say,
      decisions_say, hnone, ite_self, List.append_nil]
  · simp only [if_neg hidle]
    rw [decisions_runLoaded files htrace, decisions_append, decisions_loadFile hfile htrace,
      decisions_say, List.append_nil]

/-- **What a run tells of its decisions.** With the script of a file, those on the script are all
told, whether it can be learnt from or not. Those on inputs and on the response are all told behind
them, in the order in which they were made, unless the file lacks the response: then the run ends
without telling any of them. So decisions are lost exactly if an input was run by then. -/
theorem decisions_run (source : Source σ) (s : σ) (horigin : o.origin = .file path)
    (hfile : files path = .ok script) (htrace : o.trace = true) :
    (∀ e, (Unscrambler.read .standard script).outcome = .error e →
      decisions (run files source s o).said =
        numbered (Unscrambler.read .standard script).trail) ∧
    ∀ u, (Unscrambler.read .standard script).outcome = .ok u →
      decisions (run files source s o).said =
          numbered (Unscrambler.read .standard script).trail ++
            (if lacksResponse files o.info then []
            else numbered (workTrail files u o.inputs o.info)) ∧
        (decisions (run files source s o).said =
            numbered (Unscrambler.read .standard script).trail ++
              numbered (workTrail files u o.inputs o.info) ↔
          ¬ (lacksResponse files o.info = true ∧ ∃ i ∈ o.inputs, i.IsRun)) := by
  refine ⟨fun e he ↦ decisions_run_of_error source s horigin hfile htrace he, fun u hu ↦ ?_⟩
  have hall := decisions_run_of_ok source s horigin hfile htrace hu
  refine ⟨hall, ?_⟩
  rw [hall]
  cases hlacks : lacksResponse files o.info with
  | false => simp
  | true =>
    -- nothing is told there, so all was told if there was nothing to tell
    rw [if_pos rfl, List.append_right_inj, eq_comm, ← List.length_eq_zero_iff, length_numbered,
      List.length_eq_zero_iff, workTrail_eq_nil_iff hlacks]
    simp

end Runs

/-- With the file of the response missing, the decisions on a token are made and never told. -/
theorem decisions_run_missingResponse :
    decisions (run sampleFiles noSource ()
        { sampleOptions with info := some "none.json".toList }).said =
        numbered (Unscrambler.read .standard (PlayerScript.ofLength 0).text).trail ∧
      workTrail sampleFiles (PlayerScript.ofLength 0).learnt sampleOptions.inputs
        (some "none.json".toList) ≠ [] := by
  have hfile : sampleFiles "p.js".toList = .ok (PlayerScript.ofLength 0).text := if_pos rfl
  have hlacks : lacksResponse sampleFiles (some "none.json".toList) = true :=
    lacksResponse_of_error ((if_neg (by decide)).trans (if_neg (by decide)))
  have hread := PlayerScript.outcome_read_text_of_fits _
    (PlayerScript.fits_of_length_le (PlayerScript.ofLength 0) (by decide) (by decide))
  have hrun := (decisions_run (o := { sampleOptions with info := some "none.json".toList })
    noSource () rfl hfile rfl).2 _ hread
  refine ⟨?_, fun hnil ↦ ?_⟩
  · rw [hrun.1, if_pos hlacks, List.append_nil]
  · exact (workTrail_eq_nil_iff hlacks _ _).1 hnil ⟨.token "abc".toList, by decide, trivial⟩

end Unscramble.Command

import Mathlib.Data.ENat.Lattice
import Mathlib.Data.List.Basic
import Unscramble.Player.Fetcher

/-!
# How often a request is repeated

A request is repeated while the server says that it is itself at fault, and while there are
repetitions left. So the number of repetitions is the smaller of two numbers: how many are allowed,
and how many replies blame the server before the first that does not. The second number has no
bound, because a server may go on like that forever; the first always has.

The server is taken to give the replies of an infinite sequence one after the other, and remembers
what it was asked for. Its state at the end then tells how many requests there were, and the outcome
is that of the last reply, whichever it is.

## Main definitions

* `Server.ofReplies`: a server with a fixed sequence of replies.
* `leading`: how many members of a sequence come before the first of another kind.

## Main statements

* `exists_fetchFrom_ofReplies`: the requests and the outcome of a fetch.
* `fetchText_follows_replies`: how often a request is repeated, and with which outcome.
-/

namespace Unscramble.Player

/-! ### Sequences of replies -/

/-- A server that gives the replies of a sequence one after the other, and remembers the URLs that
it was asked for, the last one first. -/
def Server.ofReplies (replies : ℕ → Reply) : Server (List (List Char)) :=
  fun url asked ↦ (url :: asked, replies asked.length)

/-- The reply tells that the server is at fault. -/
def Reply.BlamesServer (reply : Reply) : Prop :=
  ∃ code body, reply = .status code body ∧ 500 ≤ code ∧ code < 600

/-- The reply tells of success, or of an error on one of the two sides. -/
def Reply.IsUsual (reply : Reply) : Prop :=
  ∃ code body, reply = .status code body ∧
    ((200 ≤ code ∧ code < 300) ∨ (400 ≤ code ∧ code < 500) ∨ 500 ≤ code ∧ code < 600)

/-- How many members of a sequence come before the first without the property. If all have it, there
is no end to them. -/
noncomputable def leading (p : ℕ → Prop) : ℕ∞ :=
  ⨅ i ∈ {i | ¬ p i}, (i : ℕ∞)

/-- A number up to which all have the property, and at which it ends unless that is the limit, is
the smaller of the limit and the leading number. -/
theorem eq_min_leading {p : ℕ → Prop} {r limit : ℕ} (hle : r ≤ limit) (hbefore : ∀ i < r, p i)
    (hend : r < limit → ¬ p r) : (r : ℕ∞) = min (limit : ℕ∞) (leading p) := by
  refine le_antisymm (le_min (Nat.cast_le.2 hle) (le_iInf₂ fun i hi ↦ ?_)) ?_
  · -- the property does not fail before `r`
    refine Nat.cast_le.2 (Nat.le_of_not_lt fun hlt ↦ ?_)
    exact hi (hbefore i hlt)
  · rcases hle.eq_or_lt with rfl | hlt
    · exact min_le_left _ _
    · exact (min_le_right _ _).trans (iInf₂_le r (hend hlt))

/-! ### One request -/

variable {replies : ℕ → Reply} {url target : List Char}

theorem request_ofReplies (h : target? url = some target) (asked : List (List Char)) :
    request (Server.ofReplies replies) url asked =
      (target :: asked, (replies asked.length).text url) := by
  rw [request, h]
  rfl

/-- The error of a server that is at fault may pass. -/
theorem Reply.BlamesServer.exists_text {reply : Reply} (h : reply.BlamesServer)
    (url : List Char) : ∃ e, reply.text url = .error e ∧ e.isTransient = true := by
  obtain ⟨code, body, rfl, hlow, hhigh⟩ := h
  refine ⟨.download (.status code (shown url)), if_pos ?_, ?_⟩
  · simp only [isErrorStatus, Bool.and_eq_true, decide_eq_true_eq]
    omega
  · rw [Error.isTransient_download, DownloadFault.isTransient_status]
    exact ⟨hlow, hhigh⟩

/-- No error of another usual reply passes. -/
theorem Reply.IsUsual.isTransient_eq_false {reply : Reply} (h : reply.IsUsual)
    (hnot : ¬ reply.BlamesServer) {e : Error} (he : reply.text url = .error e) :
    e.isTransient = false := by
  obtain ⟨code, body, rfl, hcode⟩ := h
  rw [text] at he
  split at he
  · obtain rfl := Except.error.inj he
    refine Bool.eq_false_iff.2 fun hserver ↦ hnot ⟨code, body, rfl, ?_⟩
    rwa [Error.isTransient_download, DownloadFault.isTransient_status] at hserver
  · cases he

/-- A usual reply brings its text if its status is below those of errors. -/
theorem text_status_of_usual {code : Nat} {body : List Char}
    (h : (200 ≤ code ∧ code < 300) ∨ (400 ≤ code ∧ code < 500) ∨ 500 ≤ code ∧ code < 600) :
    (Reply.status code body).text url =
      if code < 300 then .ok body else .error (.download (.status code (shown url))) := by
  rw [Reply.text]
  by_cases hcode : code < 300
  · rw [if_pos hcode, if_neg]
    simp only [isErrorStatus, Bool.and_eq_true, decide_eq_true_eq]
    omega
  · rw [if_neg hcode, if_pos]
    simp only [isErrorStatus, Bool.and_eq_true, decide_eq_true_eq]
    omega

/-! ### A request and its repetitions -/

/-- **A fetch sends a request for each reply up to the one that ends it**, which does not blame the
server unless there is no repetition left. Its outcome is that of this reply. -/
theorem exists_fetchFrom_ofReplies (h : target? url = some target)
    (husual : ∀ i, (replies i).IsUsual) (retries attempt : ℕ) (asked : List (List Char)) :
    ∃ r ≤ retries, (∀ i < r, (replies (asked.length + i)).BlamesServer) ∧
      (r < retries → ¬ (replies (asked.length + r)).BlamesServer) ∧
      (fetchFrom (Server.ofReplies replies) url retries attempt asked).1 =
        List.replicate (r + 1) target ++ asked ∧
      (fetchFrom (Server.ofReplies replies) url retries attempt asked).2.outcome =
        (replies (asked.length + r)).text url := by
  -- on the number of repetitions that are left; each one is asked for with one more request behind
  induction retries generalizing attempt asked with
  | zero =>
    refine ⟨0, le_rfl, nofun, nofun, ?_, ?_⟩ <;> rw [fetchFrom, request_ofReplies h] <;> rfl
  | succ retries ih =>
    by_cases hblames : (replies asked.length).BlamesServer
    · obtain ⟨e, he, htransient⟩ := hblames.exists_text url
      obtain ⟨r, hr, hbefore, hend, hasked, houtcome⟩ := ih (attempt + 1) (target :: asked)
      have hshift (i : ℕ) : (target :: asked).length + i = asked.length + (i + 1) := by
        rw [List.length_cons]
        omega
      have hgo : fetchFrom (Server.ofReplies replies) url (retries + 1) attempt asked =
          ((fetchFrom (Server.ofReplies replies) url retries (attempt + 1) (target :: asked)).1,
            ⟨.requestRepeated (String.ofList url) e.message (pause attempt) ::
              (fetchFrom (Server.ofReplies replies) url retries (attempt + 1)
                (target :: asked)).2.notes,
              (fetchFrom (Server.ofReplies replies) url retries (attempt + 1)
                (target :: asked)).2.outcome⟩) := by
        rw [fetchFrom, request_ofReplies h, he]
        show (if e.isTransient = true then _ else _) = _
        rw [if_pos htransient]
      refine ⟨r + 1, Nat.succ_le_succ hr, ?_, ?_, ?_, ?_⟩
      · rintro (_ | i) hi
        · exact hblames
        · rw [← hshift]
          exact hbefore i (Nat.lt_of_succ_lt_succ hi)
      · intro hlt
        rw [← hshift]
        exact hend (Nat.lt_of_succ_lt_succ hlt)
      · rw [hgo, hasked, List.replicate_succ' (n := r + 1), List.append_assoc]
        rfl
      · rw [hgo, houtcome, hshift]
    · -- this reply ends the fetch
      have hgo : fetchFrom (Server.ofReplies replies) url (retries + 1) attempt asked =
          (target :: asked, .ofExcept ((replies asked.length).text url)) := by
        rw [fetchFrom, request_ofReplies h]
        rcases htext : (replies asked.length).text url with e | text
        · show (if e.isTransient = true then _ else _) = _
          rw [(husual asked.length).isTransient_eq_false hblames htext]
          rfl
        · rfl
      refine ⟨0, Nat.zero_le _, nofun, fun _ ↦ hblames, ?_⟩
      rw [hgo]
      exact ⟨rfl, rfl⟩

/-- **Requests follow the replies exactly.** If a server's replies tell of success or of an error,
one request is sent for the smaller of the number of repetitions that are allowed and the number of
replies that blame the server before the first that does not, and one more. Its reply decides the
outcome: the text that it brings, or the error that it tells of. -/
theorem fetchText_follows_replies (replies : ℕ → Reply) (husual : ∀ i, (replies i).IsUsual)
    (settings : Settings) (url target : List Char) (h : target? url = some target) :
    ∃ r : ℕ,
      (r : ℕ∞) = min (settings.retries : ℕ∞) (leading fun i ↦ (replies i).BlamesServer) ∧
      r ≤ settings.retries ∧ (∀ i < r, (replies i).BlamesServer) ∧
      (fetchText (Server.ofReplies replies) settings url []).1 = List.replicate (r + 1) target ∧
      ∃ code body, replies r = .status code body ∧
        (fetchText (Server.ofReplies replies) settings url []).2.outcome =
          if code < 300 then .ok body else .error (.download (.status code (shown url))) := by
  obtain ⟨r, hle, hbefore, hend, hasked, houtcome⟩ :=
    exists_fetchFrom_ofReplies h husual settings.retries 0 []
  simp only [List.length_nil, Nat.zero_add] at hbefore hend houtcome
  obtain ⟨code, body, hreply, hcode⟩ := husual r
  refine ⟨r, eq_min_leading hle hbefore hend, hle, hbefore, ?_, code, body, hreply, ?_⟩
  · rw [fetchText, hasked, List.append_nil]
  · rw [fetchText, houtcome, hreply]
    exact text_status_of_usual hcode

/-- A server that is at fault twice and then has no such page is asked three times, although two
more requests were allowed. It is asked without the fragment, and the login is not told. -/
theorem fetchText_fault_fault_missing :
    ∃ replies : ℕ → Reply, (∀ i, (replies i).IsUsual) ∧
      target? "http://me@a.b/c#d".toList = some "http://me@a.b/c".toList ∧
      (fetchText (Server.ofReplies replies) { Settings.usual with retries := 4 }
          "http://me@a.b/c#d".toList []).1 = List.replicate 3 "http://me@a.b/c".toList ∧
      (fetchText (Server.ofReplies replies) { Settings.usual with retries := 4 }
          "http://me@a.b/c#d".toList []).2.outcome =
        .error (.download (.status 404 "http://a.b/c#d")) := by
  let replies (i : ℕ) : Reply := .status (if i < 2 then 503 else 404) []
  have husual (i : ℕ) : (replies i).IsUsual := by
    refine ⟨_, _, rfl, ?_⟩
    split <;> omega
  have hfault : ∀ i < 2, (replies i).BlamesServer := by
    intro i hi
    exact ⟨503, [], by simp only [replies, if_pos hi], by omega, by omega⟩
  have hmissing : ¬ (replies 2).BlamesServer := by
    rintro ⟨code, body, hreply, hlow, -⟩
    injection hreply with hcode
    simp only [Nat.lt_irrefl, if_false] at hcode
    omega
  have htarget : target? "http://me@a.b/c#d".toList = some "http://me@a.b/c".toList := by
    decide +kernel
  have hshown : shown "http://me@a.b/c#d".toList = "http://a.b/c#d" := by decide +kernel
  refine ⟨replies, husual, htarget, ?_⟩
  obtain ⟨r, hr, -, -, hasked, code, body, hreply, houtcome⟩ :=
    fetchText_follows_replies replies husual { Settings.usual with retries := 4 } _ _ htarget
  have htwo : ((2 : ℕ) : ℕ∞) = min ((4 : ℕ) : ℕ∞) (leading fun i ↦ (replies i).BlamesServer) :=
    eq_min_leading (by omega) hfault fun _ ↦ hmissing
  obtain rfl : r = 2 := Nat.cast_injective (hr.trans htwo.symm)
  injection hreply with hcode
  obtain rfl : 404 = code := hcode
  refine ⟨hasked, houtcome.trans ?_⟩
  rw [hshown]
  rfl

end Unscramble.Player

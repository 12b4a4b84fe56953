import Unscramble.Media.Response
import Unscramble.Player.Source
import Unscramble.Session

/-!
# Resolving responses

A resolver brings the parts together: it asks a source for the script that plays a video, keeps a
session of the scripts that it has read, and signs the streams of responses.

## Main definitions

* `Resolver.scriptUrl`, `Resolver.unscrambler`: the script of a video, and the unscrambler of a
  script.
* `Resolver.sign`, `Resolver.signFor`: a response signed with a script, or with the script of a
  video.
-/

namespace Unscramble

open Unscramble.Media
open Unscramble.Player

/-- What a resolver has learnt, and the state of its source. -/
structure Resolver (σ : Type) where
  state : σ
  session : Session

namespace Resolver

variable {σ : Type}

/-- The URL of the script that plays a video, which is named by its id or by a page. -/
def scriptUrl (source : Source σ) (video : List Char) (r : Resolver σ) :
    Resolver σ × Attempt Error (List Char) :=
  match Video.idOf video with
  | .error fault => (r, .fail (.ofVideo fault))
  | .ok id =>
    let (s, answer) := source.scriptUrl id r.state
    ({ r with state := s }, answer)

/-- The unscrambler of the script at a URL. -/
def unscrambler (source : Source σ) (url : List Char) (r : Resolver σ) :
    Resolver σ × Attempt Error Learnt :=
  let (s, script) := source.scriptText url r.state
  match script.outcome with
  | .error e => ({ r with state := s }, ⟨script.notes, .error e⟩)
  | .ok text =>
    let (session, learnt) := r.session.request text
    (⟨s, session⟩, ⟨script.notes ++ learnt.notes, learnt.outcome.mapError .script⟩)

/-- A response signed with the script at a URL, and a report. The response stays as it is if there
is no unscrambler. -/
def sign (source : Source σ) (url : List Char) (response : Response) (r : Resolver σ) :
    Resolver σ × Response × Attempt Error Report :=
  let (r, learnt) := r.unscrambler source url
  match learnt.outcome with
  | .error e => (r, response, ⟨learnt.notes, .error e⟩)
  | .ok known =>
    let signed := response.sign known.unscrambler
    let (response, report) := signed.result
    let told := Note.responseResolved report.signed report.refused.length
    (r, response, ⟨learnt.notes ++ signed.notes ++ [told], .ok report⟩)

/-- A response signed with the script of a video, and a report. -/
def signFor (source : Source σ) (video : List Char) (response : Response) (r : Resolver σ) :
    Resolver σ × Response × Attempt Error Report :=
  let (r, url) := r.scriptUrl source video
  match url.outcome with
  | .error e => (r, response, ⟨url.notes, .error e⟩)
  | .ok found =>
    let (r, response, report) := r.sign source found response
    (r, response, ⟨url.notes ++ report.notes, report.outcome⟩)

end Resolver

end Unscramble

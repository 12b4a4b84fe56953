import Unscramble.Media.Stream

/-!
# Player responses

What a player is told about a video: whether it can be played, its streams, and some details. The
streams come in two lists, those with picture and sound and those with one of the two.

## Main definitions

* `Response.value`, `Response.decoder`: a response as a JSON object.
* `Response.sign`: the response with all streams signed that can be, and a report.
-/

namespace Unscramble.Media

open Unscramble.Text

/-- Whether a video can be played. -/
structure Playability where
  status : List Char := []
  inEmbed : Bool := false
  reason : Option (List Char) := none
  deriving DecidableEq

/-- The streams of a video. -/
structure Streaming where
  expiresInSeconds : List Char := []
  /-- Streams with picture and sound. -/
  formats : List Stream := []
  /-- Streams with picture or sound. -/
  adaptiveFormats : List Stream := []
  deriving DecidableEq

/-- What a video is. -/
structure Details where
  videoId : List Char := []
  title : List Char := []
  author : List Char := []
  lengthSeconds : List Char := []
  deriving DecidableEq

/-- What a player is told about a video. -/
structure Response where
  playability : Playability := {}
  streaming : Streaming := {}
  details : Details := {}
  deriving DecidableEq

/-! ### As JSON -/

namespace Playability

/-- Playability as a JSON object. A reason that is missing is left out. -/
def value (p : Playability) : Json.Value :=
  .object <|
    [("status", .string p.status), ("playableInEmbed", .bool p.inEmbed)] ++
    (match p.reason with
      | none => []
      | some reason => [("reason", .string reason)])

/-- How playability is taken out of a JSON text. -/
def decoder : Json.Decoder Playability :=
  .record {}
    [.of "status" Json.Decoder.text fun t p ↦ { p with status := t },
      .of "playableInEmbed" Json.Decoder.bool fun b p ↦ { p with inEmbed := b },
      .of "reason" (.optional Json.Decoder.text) fun t p ↦ { p with reason := t }]

end Playability

namespace Streaming

/-- The streams of a video as a JSON object. -/
def value (s : Streaming) : Json.Value :=
  .object
    [("expiresInSeconds", .string s.expiresInSeconds),
      ("formats", .array (s.formats.map (·.value))),
      ("adaptiveFormats", .array (s.adaptiveFormats.map (·.value)))]

/-- How the streams of a video are taken out of a JSON text. -/
def decoder : Json.Decoder Streaming :=
  .record {}
    [.of "expiresInSeconds" Json.Decoder.text fun t s ↦ { s with expiresInSeconds := t },
      .of "formats" (.list Stream.decoder) fun l s ↦ { s with formats := l },
      .of "adaptiveFormats" (.list Stream.decoder) fun l s ↦ { s with adaptiveFormats := l }]

end Streaming

namespace Details

/-- The details of a video as a JSON object. -/
def value (d : Details) : Json.Value :=
  .object
    [("videoId", .string d.videoId), ("title", .string d.title), ("author", .string d.author),
      ("lengthSeconds", .string d.lengthSeconds)]

/-- How the details of a video are taken out of a JSON text. -/
def decoder : Json.Decoder Details :=
  .record {}
    [.of "videoId" Json.Decoder.text fun t d ↦ { d with videoId := t },
      .of "title" Json.Decoder.text fun t d ↦ { d with title := t },
      .of "author" Json.Decoder.text fun t d ↦ { d with author := t },
      .of "lengthSeconds" Json.Decoder.text fun t d ↦ { d with lengthSeconds := t }]

end Details

namespace Response

/-- A response as a JSON object. -/
def value (r : Response) : Json.Value :=
  .object
    [("playabilityStatus", r.playability.value), ("streamingData", r.streaming.value),
      ("videoDetails", r.details.value)]

/-- How a response is taken out of a JSON text. -/
def decoder : Json.Decoder Response :=
  .record {}
    [.of "playabilityStatus" Playability.decoder fun p r ↦ { r with playability := p },
      .of "streamingData" Streaming.decoder fun s r ↦ { r with streaming := s },
      .of "videoDetails" Details.decoder fun d r ↦ { r with details := d }]

/-- The response that a JSON text holds. -/
def read (s : List Char) : Except Error Response :=
  (decoder.run s).mapError .json

/-- All streams of a response. -/
def streams (r : Response) : List Stream :=
  r.streaming.formats ++ r.streaming.adaptiveFormats

end Response

/-! ### Signing -/

/-- What has become of the streams of a response. -/
structure Report where
  /-- How many streams were signed. -/
  signed : Nat
  /-- How many streams needed no signing. -/
  untouched : Nat
  /-- The streams that could not be signed, and why. -/
  refused : List (UInt32 × Error)

namespace Report

/-- A report on no streams. -/
def empty : Report :=
  ⟨0, 0, []⟩

/-- A report on two lists of streams, the first of which comes first. -/
def append (a b : Report) : Report :=
  ⟨a.signed + b.signed, a.untouched + b.untouched, a.refused ++ b.refused⟩

/-- Whether no stream was refused. -/
def isComplete (r : Report) : Bool :=
  r.refused.isEmpty

end Report

/-- A result with notes that cannot fail. -/
structure Noted (α : Type) where
  notes : List Note
  result : α

/-- Sign one stream if it needs it, and report on it. -/
def Stream.signIfNeeded (u : Unscrambler) (s : Stream) : Noted (Stream × Report) :=
  if s.needsSigning then
    let (after, attempt) := s.signInPlace u
    match attempt.outcome with
    | .ok () => ⟨attempt.notes ++ [.streamSigned after.itag], (after, ⟨1, 0, []⟩)⟩
    | .error e =>
      ⟨attempt.notes ++ [.streamRefused after.itag e.message], (after, ⟨0, 0, [(after.itag, e)]⟩)⟩
  else ⟨[], (s, ⟨0, 1, []⟩)⟩

/-- Sign all streams of a list that need it. -/
def signAll (u : Unscrambler) : List Stream → Noted (List Stream × Report)
  | [] => ⟨[], ([], .empty)⟩
  | s :: r =>
    let first := s.signIfNeeded u
    let others := signAll u r
    ⟨first.notes ++ others.notes,
      (first.result.1 :: others.result.1, first.result.2.append others.result.2)⟩

/-- Sign all streams of a response that need it. -/
def Response.sign (u : Unscrambler) (r : Response) : Noted (Response × Report) :=
  let formats := signAll u r.streaming.formats
  let adaptive := signAll u r.streaming.adaptiveFormats
  ⟨formats.notes ++ adaptive.notes,
    ({ r with streaming :=
        { r.streaming with formats := formats.result.1, adaptiveFormats := adaptive.result.1 } },
      formats.result.2.append adaptive.result.2)⟩

end Unscramble.Media

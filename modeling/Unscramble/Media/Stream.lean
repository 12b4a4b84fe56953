import Unscramble.Json.Decoder
import Unscramble.Json.Value
import Unscramble.Media.Cipher
import Unscramble.Text.Blank
import Unscramble.Text.Split

/-!
# Streams

A stream of a video: where it is, what it is made of, and the cipher from which its address is made
if it has none yet.

## Main definitions

* `Stream.value`, `Stream.decoder`: a stream as a JSON object.
* `Stream.signInPlace`, `Stream.sign`: the stream with its address made from its cipher.
* `Stream.kind`, `Stream.extension`, `Stream.fileName`: what its type says about it.

## Main statements

* `needsSigning_signed`: a stream with an address that is not empty, and without a cipher, needs no
  signing.
-/

namespace Unscramble.Media

open Unscramble.Text

/-- A stream of a video. -/
structure Stream where
  itag : UInt32 := 0
  url : List Char := []
  mimeType : List Char := []
  quality : List Char := []
  qualityLabel : List Char := []
  bitrate : UInt64 := 0
  width : UInt32 := 0
  height : UInt32 := 0
  fps : UInt32 := 0
  contentLength : List Char := []
  /-- The cipher of an address that is still to be made; empty if there is none. -/
  signatureCipher : List Char := []
  deriving DecidableEq

namespace Stream

/-! ### As JSON -/

/-- The largest number of thirty-two bits. -/
def limit32 : Nat :=
  0xFFFFFFFF

/-- The largest number of sixty-four bits. -/
def limit64 : Nat :=
  0xFFFFFFFFFFFFFFFF

/-- A stream as a JSON object. An empty cipher is left out. -/
def value (s : Stream) : Json.Value :=
  .object <|
    [("itag", .number s.itag.toNat), ("url", .string s.url), ("mimeType", .string s.mimeType),
      ("quality", .string s.quality), ("qualityLabel", .string s.qualityLabel),
      ("bitrate", .number s.bitrate.toNat), ("width", .number s.width.toNat),
      ("height", .number s.height.toNat), ("fps", .number s.fps.toNat),
      ("contentLength", .string s.contentLength)] ++
    (if s.signatureCipher.isEmpty then [] else [("signatureCipher", .string s.signatureCipher)])

/-- The fields of a stream, in order. -/
def fields : List (Json.Field Stream) :=
  [.of "itag" (Json.Decoder.natural limit32) fun n s ↦ { s with itag := n.toUInt32 },
    .of "url" Json.Decoder.text fun t s ↦ { s with url := t },
    .of "mimeType" Json.Decoder.text fun t s ↦ { s with mimeType := t },
    .of "quality" Json.Decoder.text fun t s ↦ { s with quality := t },
    .of "qualityLabel" Json.Decoder.text fun t s ↦ { s with qualityLabel := t },
    .of "bitrate" (Json.Decoder.natural limit64) fun n s ↦ { s with bitrate := n.toUInt64 },
    .of "width" (Json.Decoder.natural limit32) fun n s ↦ { s with width := n.toUInt32 },
    .of "height" (Json.Decoder.natural limit32) fun n s ↦ { s with height := n.toUInt32 },
    .of "fps" (Json.Decoder.natural limit32) fun n s ↦ { s with fps := n.toUInt32 },
    .of "contentLength" Json.Decoder.text fun t s ↦ { s with contentLength := t },
    .of "signatureCipher" Json.Decoder.text fun t s ↦ { s with signatureCipher := t }]

/-- How a stream is taken out of a JSON text. -/
def decoder : Json.Decoder Stream :=
  .record {} fields

/-! ### What the type says -/

/-- The type without its parameters. -/
def essence (s : Stream) : List Char :=
  trim (s.mimeType.takeWhile (· != ';'))

/-- What kind of media the stream is, such as `video` or `audio`. -/
def kind (s : Stream) : List Char :=
  s.essence.takeWhile (· != '/')

/-- The extension of a file with the stream. Audio is named by its coding, and all else by the
second half of its type. -/
def extension (s : Stream) : List Char :=
  if s.kind = "audio".toList then
    if hasPart "opus".toList s.mimeType then "opus".toList else "mp3".toList
  else (s.essence.reverse.takeWhile (· != '/')).reverse

/-- The name of a file with the stream. -/
def fileName (s : Stream) (video : List Char) : List Char :=
  let label := if s.qualityLabel.isEmpty then [] else '-' :: s.qualityLabel
  video ++ label ++ '-' :: s.quality ++ '.' :: s.extension

/-! ### Signing -/

/-- Whether the stream cannot be fetched as it is. -/
def needsSigning (s : Stream) : Bool :=
  s.url.isEmpty || !s.signatureCipher.isEmpty

/-- The stream at an address, without a cipher. -/
def signed (s : Stream) (url : List Char) : Stream :=
  { s with url, signatureCipher := [] }

/-- Make the address of a stream from its cipher: the stream afterwards, and whether it could be
made. Nothing is written before the address is known. -/
def signInPlace (s : Stream) (u : Unscrambler) : Stream × Attempt Error Unit :=
  match Cipher.read s.signatureCipher with
  | .error e => (s, .fail e)
  | .ok cipher =>
    let address := cipher.sign u
    match address.outcome with
    | .error e => (s, ⟨address.notes, .error e⟩)
    | .ok url => (s.signed url, ⟨address.notes, .ok ()⟩)

/-- The stream with its address made from its cipher. -/
def sign (s : Stream) (u : Unscrambler) : Attempt Error Stream :=
  let (after, attempt) := s.signInPlace u
  ⟨attempt.notes, attempt.outcome.map fun _ ↦ after⟩

theorem needsSigning_signed (s : Stream) {url : List Char} (h : url ≠ []) :
    (s.signed url).needsSigning = false := by
  simp [needsSigning, signed, h]

end Stream

end Unscramble.Media

import Unscramble.Proofs.Json.Record
import Unscramble.Proofs.Media.Response

/-!
# Records are read back from their JSON texts

The members of each record are written under the keys of its fields, no key twice, and a field takes
out of a draft what was written for it. What is left out, an empty cipher or a reason that is
missing, is what the field holds before anything is put into it. So every record is read back from
its text, whatever its strings and numbers are.

Since this holds of all records, it holds of a response some of whose ciphers are gone, and what is
read back is written as the same text again.

## Main statements

* `Stream.decoder_draft`, `Response.decoder_draft`: a record is taken out of what was written.
* `Response.survives_writing`: records are read back from their texts, before signing and after.
-/

namespace Unscramble.Media

open Unscramble.Json

/-! ### One record after the other -/

theorem natural_limit32 (n : UInt32) :
    Decoder.natural Stream.limit32 (Value.number n.toNat).draft = .ok n.toNat :=
  Decoder.natural_draft (Nat.le_of_lt_succ n.toNat_lt)

theorem natural_limit64 (n : UInt64) :
    Decoder.natural Stream.limit64 (Value.number n.toNat).draft = .ok n.toNat :=
  Decoder.natural_draft (Nat.le_of_lt_succ n.toNat_lt)

/-- A stream is taken out of what was written for it. -/
theorem Stream.decoder_draft (s : Stream) : Stream.decoder s.value.draft = .ok s := by
  obtain ⟨itag, url, mimeType, quality, label, bitrate, width, height, fps, length, cipher⟩ := s
  -- an empty cipher is left out
  rcases cipher with - | ⟨c, cipher⟩ <;>
  · rw [Stream.value, Stream.decoder, Decoder.record_object _ _ (by simp)]
    simp [Stream.fields, Field.take, Field.of, natural_limit32, natural_limit64,
      Decoder.text_draft, bind, Except.bind, Except.map, pure, Except.pure]

/-- Playability is taken out of what was written for it. -/
theorem Playability.decoder_draft (p : Playability) :
    Playability.decoder p.value.draft = .ok p := by
  obtain ⟨status, inEmbed, reason⟩ := p
  -- a reason that is missing is left out
  rcases reason with - | reason <;>
  · rw [Playability.value, Playability.decoder, Decoder.record_object _ _ (by simp)]
    simp [Field.take, Field.of, Decoder.text_draft, Decoder.bool_draft,
      Decoder.optional_text_draft, bind, Except.bind, Except.map, pure, Except.pure]

/-- The streams of a video are taken out of what was written for them. -/
theorem Streaming.decoder_draft (s : Streaming) : Streaming.decoder s.value.draft = .ok s := by
  have hlist (l : List Stream) :
      Decoder.list Stream.decoder (Value.array (l.map (·.value))).draft = .ok l :=
    Decoder.list_draft fun s _ ↦ s.decoder_draft
  rw [Streaming.value, Streaming.decoder, Decoder.record_object _ _ (by simp)]
  simp [Field.take, Field.of, Decoder.text_draft, hlist, bind, Except.bind, Except.map, pure,
    Except.pure]

/-- The details of a video are taken out of what was written for them. -/
theorem Details.decoder_draft (d : Details) : Details.decoder d.value.draft = .ok d := by
  rw [Details.value, Details.decoder, Decoder.record_object _ _ (by simp)]
  simp [Field.take, Field.of, Decoder.text_draft, bind, Except.bind, Except.map, pure, Except.pure]

/-- A response is taken out of what was written for it. -/
theorem Response.decoder_draft (r : Response) : Response.decoder r.value.draft = .ok r := by
  rw [Response.value, Response.decoder, Decoder.record_object _ _ (by simp)]
  simp [Field.take, Field.of, r.playability.decoder_draft, r.streaming.decoder_draft,
    r.details.decoder_draft, bind, Except.bind, Except.map, pure, Except.pure]

/-! ### Texts -/

theorem Stream.run_value_text (s : Stream) : Stream.decoder.run s.value.text = .ok s :=
  Decoder.run_text s.decoder_draft

theorem Response.read_value_text (r : Response) : Response.read r.value.text = .ok r := by
  rw [Response.read, Decoder.run_text r.decoder_draft]
  rfl

/-- **Records are read back from their texts**, whatever their strings and numbers are: responses
and streams. What is read back is written as the same text, also after any number of rounds of
signing, which clear the ciphers of the streams that they sign. -/
theorem Response.survives_writing (r : Response) (s : Stream) (u : Unscrambler) (n : ℕ) :
    Response.read r.value.text = .ok r ∧
      Stream.decoder.run s.value.text = .ok s ∧
      (Response.read (rounds u n r).value.text).map (·.value.text) =
        .ok (rounds u n r).value.text ∧
      (Stream.decoder.run (s.signInPlace u).1.value.text).map (·.value.text) =
        .ok (s.signInPlace u).1.value.text := by
  refine ⟨r.read_value_text, s.run_value_text, ?_, ?_⟩
  · rw [(rounds u n r).read_value_text]
    rfl
  · rw [Stream.run_value_text]
    rfl

end Unscramble.Media

import Unscramble.Media.Stream
import Unscramble.Proofs.Media.Cipher
import Unscramble.Proofs.Text.Form
import Unscramble.Proofs.Url.Reader

/-!
# Signing a stream is atomic

A stream is signed in four stages: the token and the address are looked up in its cipher, the token
is unscrambled, and the address is read. The first stage that fails decides the error, and then the
stream is what it was. If none fails, nothing but the address and the cipher has changed, and the
stream can be fetched as it is: at the address of the cipher, with the unscrambled token in the last
pair of its query.

## Main definitions

* `Stream.Atomic`: what signing may leave, and when it leaves what.

## Main statements

* `fst_signInPlace_of_error`: a stream that cannot be signed stays as it is.
* `needsSigning_fst_signInPlace`: a signed stream needs no signing.
* `signInPlace_atomic`: what a cipher holds decides how signing ends.
-/

namespace Unscramble.Media.Stream

open Unscramble.Text

variable {u : Unscrambler} {s : Stream}

/-- What signing in place may leave of a stream `s`, and which outcome goes with it. -/
structure Atomic (u : Unscrambler) (s after : Stream) (outcome : Except Error Unit) : Prop where
  /-- What a cipher holds is what was written into it: the first value of each key. -/
  held : ∀ marks pairs, s.signatureCipher = List.replicate marks '?' ++ Form.encodePairs pairs →
    ∀ key, Form.value? s.signatureCipher key = pairs.lookup key
  /-- A stream is signed if and only if no stage fails. -/
  ok_iff : outcome = .ok () ↔ ∃ token url unscrambled address,
    Form.value? s.signatureCipher ['s'] = some token ∧
      Form.value? s.signatureCipher "url".toList = some url ∧
      (u.run token).2 = .ok unscrambled ∧ Url.read url = .ok address
  /-- A signed stream has the address with the unscrambled token in its query, no cipher, and all
  else as before. An address of the web is read again as that, if it is legible. The stream needed
  to be signed, and no longer does. -/
  signed : ∀ token url unscrambled address,
    Form.value? s.signatureCipher ['s'] = some token →
    Form.value? s.signatureCipher "url".toList = some url →
    (u.run token).2 = .ok unscrambled → Url.read url = .ok address →
      ∃ signed : Url,
        signed.Extends address (Cipher.keyOf s.signatureCipher, unscrambled) ∧
        after = { s with url := signed.text, signatureCipher := [] } ∧
        (address.scheme = "http".toList ∨ address.scheme = "https".toList →
          Url.read signed.text = if address.isLegible then .ok signed else .error .domain) ∧
        s.needsSigning = true ∧ after.needsSigning = false
  /-- A stream that is not signed is as before. -/
  kept : ∀ e, outcome = .error e → after = s
  /-- A missing token is blamed first. -/
  noToken : Form.value? s.signatureCipher ['s'] = none → outcome = .error (.missingField "s")
  /-- Then a missing address. -/
  noUrl : ∀ token, Form.value? s.signatureCipher ['s'] = some token →
    Form.value? s.signatureCipher "url".toList = none → outcome = .error (.missingField "url")
  /-- Then a token that cannot be unscrambled. -/
  notRun : ∀ token url failure, Form.value? s.signatureCipher ['s'] = some token →
    Form.value? s.signatureCipher "url".toList = some url →
    (u.run token).2 = .error failure → outcome = .error (.script failure)
  /-- Then an address that is no URL. -/
  notUrl : ∀ token url unscrambled fault, Form.value? s.signatureCipher ['s'] = some token →
    Form.value? s.signatureCipher "url".toList = some url →
    (u.run token).2 = .ok unscrambled → Url.read url = .error fault →
      outcome = .error (.url fault)

/-! ### One equation for each way to end -/

theorem signInPlace_of_unread {e : Error} (unread : Cipher.read s.signatureCipher = .error e) :
    s.signInPlace u = (s, .fail e) := by
  rw [signInPlace, unread]

theorem signInPlace_of_unsigned {c : Cipher} {e : Error}
    (read : Cipher.read s.signatureCipher = .ok c) (unsigned : (c.sign u).outcome = .error e) :
    s.signInPlace u = (s, ⟨(c.sign u).notes, .error e⟩) := by
  rw [signInPlace, read]
  simp only [unsigned]

theorem signInPlace_of_signed {c : Cipher} {url : List Char}
    (read : Cipher.read s.signatureCipher = .ok c) (signed : (c.sign u).outcome = .ok url) :
    s.signInPlace u = (s.signed url, ⟨(c.sign u).notes, .ok ()⟩) := by
  rw [signInPlace, read]
  simp only [signed]

/-- A stream whose cipher holds something needs to be signed. -/
theorem needsSigning_of_value? {key value : List Char}
    (h : Form.value? s.signatureCipher key = some value) : s.needsSigning = true := by
  rw [needsSigning]
  rcases hcipher : s.signatureCipher with - | ⟨c, form⟩
  · rw [hcipher] at h
    cases h
  · exact Bool.or_true _

/-! ### What is left -/

/-- A stream that cannot be signed stays as it is. -/
theorem fst_signInPlace_of_error {e : Error} (h : (s.signInPlace u).2.outcome = .error e) :
    (s.signInPlace u).1 = s := by
  cases read : Cipher.read s.signatureCipher with
  | error e => rw [signInPlace_of_unread read]
  | ok c =>
    cases signed : (c.sign u).outcome with
    | error e => rw [signInPlace_of_unsigned read signed]
    | ok url =>
      rw [signInPlace_of_signed read signed] at h
      cases h

/-- A stream that can be signed is at the address of its cipher afterwards. -/
theorem exists_of_signInPlace_ok (h : (s.signInPlace u).2.outcome = .ok ()) :
    ∃ c url, Cipher.read s.signatureCipher = .ok c ∧ (c.sign u).outcome = .ok url ∧
      (s.signInPlace u).1 = s.signed url := by
  cases read : Cipher.read s.signatureCipher with
  | error e =>
    rw [signInPlace_of_unread read] at h
    cases h
  | ok c =>
    cases signed : (c.sign u).outcome with
    | error e =>
      rw [signInPlace_of_unsigned read signed] at h
      cases h
    | ok url => exact ⟨c, url, rfl, signed, by rw [signInPlace_of_signed read signed]⟩

/-- A signed stream needs no signing. -/
theorem needsSigning_fst_signInPlace (h : (s.signInPlace u).2.outcome = .ok ()) :
    (s.signInPlace u).1.needsSigning = false := by
  obtain ⟨c, url, -, signed, hafter⟩ := exists_of_signInPlace_ok h
  obtain ⟨token, address, -, -, rfl⟩ := Cipher.exists_of_outcome_sign signed
  rw [hafter]
  exact needsSigning_signed s (Url.text_ne_nil _)

/-- **Signing is atomic**: it ends as the first stage that fails says, and then it has changed
nothing; if no stage fails, it has changed the address and the cipher only. -/
theorem signInPlace_atomic (u : Unscrambler) (s : Stream) :
    Atomic u s (s.signInPlace u).1 (s.signInPlace u).2.outcome where
  held := by
    rintro marks pairs hwritten key
    rw [hwritten, Form.value?_marks_encodePairs]
  ok_iff := by
    constructor
    · intro h
      obtain ⟨c, url, read, signed, -⟩ := exists_of_signInPlace_ok h
      obtain ⟨hasToken, hasUrl⟩ := Cipher.fields_of_read read
      obtain ⟨unscrambled, address, run, isUrl, -⟩ := Cipher.exists_of_outcome_sign signed
      exact ⟨c.token, c.url, unscrambled, address, hasToken, hasUrl, run, isUrl⟩
    · rintro ⟨token, url, unscrambled, address, hasToken, hasUrl, run, isUrl⟩
      have read := Cipher.read_of_fields hasToken hasUrl
      have signed := Cipher.outcome_sign_of_ok
        (c := ⟨token, Cipher.keyOf s.signatureCipher, url⟩) run isUrl
      rw [signInPlace_of_signed read signed]
  signed := by
    intro token url unscrambled address hasToken hasUrl run isUrl
    have read := Cipher.read_of_fields hasToken hasUrl
    have signed := Cipher.outcome_sign_of_ok
      (c := ⟨token, Cipher.keyOf s.signatureCipher, url⟩) run isUrl
    rw [signInPlace_of_signed read signed]
    exact ⟨_, Url.extends_append address _, rfl,
      fun hscheme ↦ Url.read_text_append isUrl hscheme _,
      needsSigning_of_value? hasToken, needsSigning_signed s (Url.text_ne_nil _)⟩
  kept := fun _ h ↦ fst_signInPlace_of_error h
  noToken := by
    intro noToken
    rw [signInPlace_of_unread (Cipher.read_of_noToken noToken), Attempt.outcome_fail]
  noUrl := by
    intro token hasToken noUrl
    rw [signInPlace_of_unread (Cipher.read_of_noUrl hasToken noUrl), Attempt.outcome_fail]
  notRun := by
    intro token url failure hasToken hasUrl notRun
    have read := Cipher.read_of_fields hasToken hasUrl
    have unsigned := Cipher.outcome_sign_of_notRun
      (c := ⟨token, Cipher.keyOf s.signatureCipher, url⟩) notRun
    rw [signInPlace_of_unsigned read unsigned]
  notUrl := by
    intro token url unscrambled fault hasToken hasUrl run notUrl
    have read := Cipher.read_of_fields hasToken hasUrl
    have unsigned := Cipher.outcome_sign_of_notUrl
      (c := ⟨token, Cipher.keyOf s.signatureCipher, url⟩) run notUrl
    rw [signInPlace_of_unsigned read unsigned]

end Unscramble.Media.Stream

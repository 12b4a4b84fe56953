import Unscramble.Media.Cipher

/-!
# What a cipher holds, and how it is signed

A cipher is read from the first value of each of its keys, and its address is made in two stages,
each of which can fail: the token is unscrambled, and then the address is read. There is one
equation for each way in which this can end.

## Main definitions

* `Cipher.keyOf`: the query key that a form names, or `signature`.

## Main statements

* `Cipher.read_of_noToken`, `Cipher.read_of_noUrl`, `Cipher.read_of_fields`: what is read from a
  form.
* `Cipher.outcome_sign_of_notRun`, `Cipher.outcome_sign_of_notUrl`, `Cipher.outcome_sign_of_ok`: how
  signing ends.
* `Cipher.fields_of_read`, `Cipher.exists_of_outcome_sign`: what success says.
-/

namespace Unscramble

open Unscramble.Text

theorem Url.text_ne_nil (u : Url) : u.text ≠ [] := by
  simp [Url.text]

namespace Media.Cipher

/-- The query key that the unscrambled token of a form goes under: the first value of `sp`, or
`signature` if there is none or it is empty. -/
def keyOf (form : List Char) : List Char :=
  ((Form.value? form "sp".toList).filter fun key ↦ !key.isEmpty).getD "signature".toList

/-! ### Reading -/

section Reading

variable {form token url : List Char}

theorem read_of_noToken (noToken : Form.value? form ['s'] = none) :
    read form = .error (.missingField "s") := by
  rw [read, noToken]

theorem read_of_noUrl (hasToken : Form.value? form ['s'] = some token)
    (noUrl : Form.value? form "url".toList = none) :
    read form = .error (.missingField "url") := by
  rw [read, hasToken, noUrl]

theorem read_of_fields (hasToken : Form.value? form ['s'] = some token)
    (hasUrl : Form.value? form "url".toList = some url) :
    read form = .ok ⟨token, keyOf form, url⟩ := by
  rw [read, hasToken, hasUrl, keyOf]
  rcases Form.value? form "sp".toList with - | - | ⟨c, key⟩ <;> rfl

/-- A cipher that is read has a token and an address. -/
theorem fields_of_read {c : Cipher} (h : read form = .ok c) :
    Form.value? form ['s'] = some c.token ∧ Form.value? form "url".toList = some c.url := by
  cases hasToken : Form.value? form ['s'] with
  | none =>
    rw [read_of_noToken hasToken] at h
    cases h
  | some token =>
    cases hasUrl : Form.value? form "url".toList with
    | none =>
      rw [read_of_noUrl hasToken hasUrl] at h
      cases h
    | some url =>
      rw [read_of_fields hasToken hasUrl] at h
      obtain rfl := Except.ok.inj h
      exact ⟨rfl, rfl⟩

end Reading

/-! ### Signing -/

section Signing

variable {c : Cipher} {u : Unscrambler} {token : List Char}

theorem outcome_sign_of_notRun {failure : Failure} (notRun : (u.run c.token).2 = .error failure) :
    (c.sign u).outcome = .error (.script failure) := by
  have hrun : ((u.runText c.token).mapError Error.script).outcome = .error (.script failure) :=
    congrArg (Except.mapError Error.script) notRun
  rw [sign, Attempt.outcome_bind_error hrun]

theorem outcome_sign_of_run (run : (u.run c.token).2 = .ok token) :
    (c.sign u).outcome = appendPair c.url c.key token := by
  have hrun : ((u.runText c.token).mapError Error.script).outcome = .ok token :=
    congrArg (Except.mapError Error.script) run
  rw [sign, Attempt.outcome_bind_ok hrun, Attempt.outcome_ofExcept]

theorem outcome_sign_of_notUrl {fault : Url.Fault} (run : (u.run c.token).2 = .ok token)
    (notUrl : Url.read c.url = .error fault) : (c.sign u).outcome = .error (.url fault) := by
  rw [outcome_sign_of_run run, appendPair, notUrl]

theorem outcome_sign_of_ok {address : Url} (run : (u.run c.token).2 = .ok token)
    (isUrl : Url.read c.url = .ok address) :
    (c.sign u).outcome = .ok (address.append (c.key, token)).text := by
  rw [outcome_sign_of_run run, appendPair, isUrl]

/-- A cipher that is signed has a token that can be unscrambled and an address that is a URL. -/
theorem exists_of_outcome_sign {url : List Char} (h : (c.sign u).outcome = .ok url) :
    ∃ token address, (u.run c.token).2 = .ok token ∧ Url.read c.url = .ok address ∧
      url = (address.append (c.key, token)).text := by
  cases hrun : (u.run c.token).2 with
  | error failure =>
    rw [outcome_sign_of_notRun hrun] at h
    cases h
  | ok token =>
    cases hread : Url.read c.url with
    | error fault =>
      rw [outcome_sign_of_notUrl hrun hread] at h
      cases h
    | ok address =>
      rw [outcome_sign_of_ok hrun hread] at h
      exact ⟨token, address, rfl, rfl, (Except.ok.inj h).symm⟩

end Signing

end Media.Cipher

end Unscramble

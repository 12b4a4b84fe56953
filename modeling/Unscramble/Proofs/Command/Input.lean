import Unscramble.Command.Run
import Unscramble.Proofs.Media.Cipher
import Unscramble.Proofs.Text.Shorter

/-!
# Which inputs are taken for ciphers

An input is taken for a cipher by how it is written: a field between `&` must begin with `url=`.
Whether it is a cipher is decided by reading it. A reader drops question marks in front, takes a
field without `=` for a key, and decodes triplets in keys.

In one direction the two agree. A field that begins with `url=` is read under that name wherever it
stands: question marks that are dropped are no part of it, and its letters stand for themselves. So
what is taken for a cipher has an address, and can lack only its token.

In the other direction they do not. The address of a cipher can be *hidden* from a look at the text:
there are triplets in its name, there is no `=` behind it, or it stands in the first field and has
question marks in front. A cipher whose addresses are all hidden is run as a token, together with
everything else that it holds.

## Main definitions

* `Form.fields`, `Form.keyText`: the fields that a form is read from, and their keys as written.
* `Input.IsAddress`, `Input.IsHidden`: the fields that are read as addresses, and which of them are
  hidden.
* `Input.ShowsAddress`: a text that has an address which is not hidden.

## Main statements

* `Form.isSome_value?_iff`: a form has a value for each key that one of its fields is read under.
* `Input.of_eq_query_iff`: the inputs that are taken for ciphers.
* `Input.url_of_query`: what is taken for a cipher has an address.
* `Input.unscramble_of_cipher`: what is done with a cipher.
-/

namespace Unscramble

open Unscramble.Text

/-! ### Fields -/

namespace Text

/-- A text without separators only makes the first piece longer. -/
theorem exists_pieces_append {sep : Char} {a : List Char} (h : sep ∉ a) (s : List Char) :
    ∃ head tail, pieces (· == sep) s = head :: tail ∧
      pieces (· == sep) (a ++ s) = (a ++ head) :: tail := by
  induction a with
  | nil =>
    obtain ⟨head, tail, hs⟩ := List.exists_cons_of_ne_nil (pieces_ne_nil (· == sep) s)
    exact ⟨head, tail, hs, hs⟩
  | cons c a ih =>
    rw [List.mem_cons, not_or] at h
    obtain ⟨head, tail, hs, happend⟩ := ih h.2
    refine ⟨head, tail, hs, ?_⟩
    rw [List.cons_append, pieces, beq_eq_false_iff_ne.2 (Ne.symm h.1), happend]
    rfl

namespace Form

/-- The fields that a form is read from, behind any number of `?`. -/
def fields (form : List Char) : List (List Char) :=
  pieces (· == '&') (form.dropWhile (· == '?'))

/-- The key of a field as it is written. -/
def keyText (field : List Char) : List Char :=
  field.takeWhile (· != '=')

theorem keyText_append_cons {key : List Char} (h : '=' ∉ key) (value : List Char) :
    keyText (key ++ '=' :: value) = key :=
  takeWhile_bne_append_cons h value

theorem keyText_of_notMem {field : List Char} (h : '=' ∉ field) : keyText field = field :=
  takeWhile_bne_of_notMem h

/-- A field is read under its key, decoded. -/
theorem fst_decodePair (field : List Char) : (decodePair field).1 = decode (keyText field) := by
  by_cases h : '=' ∈ field
  · obtain ⟨key, value, rfl, hkey⟩ := List.eq_append_cons_of_mem h
    rw [decodePair, splitFirst?_append_cons hkey, keyText_append_cons hkey]
  · rw [decodePair, splitFirst?_of_notMem h, keyText_of_notMem h]

/-- **A form has a value for a key** exactly if one of its fields is read under the key. -/
theorem isSome_value?_iff {form key : List Char} (hkey : key ≠ []) :
    (value? form key).isSome = true ↔ ∃ field ∈ fields form, decode (keyText field) = key := by
  rw [value?, lookup?, Option.isSome_map, List.find?_isSome, decodePairs]
  constructor
  · rintro ⟨pair, hpair, hfound⟩
    obtain ⟨field, hfield, rfl⟩ := List.mem_map.1 hpair
    refine ⟨field, (List.mem_filter.1 hfield).1, ?_⟩
    rw [← fst_decodePair]
    exact beq_iff_eq.1 hfound
  · rintro ⟨field, hfield, hfound⟩
    -- an empty field is no pair, but it would be read under the empty key
    have hne : field ≠ [] := by
      rintro rfl
      exact hkey hfound.symm
    refine ⟨decodePair field, List.mem_map.2 ⟨field, List.mem_filter.2 ⟨hfield, ?_⟩, rfl⟩, ?_⟩
    · simpa using hne
    · rw [fst_decodePair]
      exact beq_iff_eq.2 hfound

/-! ### Keys -/

/-- Bytes in which each `+` is a space are those of a text in which it is. -/
theorem spacedBytes_eq_encode (s : List Char) :
    spacedBytes s = Utf8.encode (s.map spacedChar) := by
  induction s with
  | nil => rfl
  | cons c s ih =>
    rw [spacedBytes_cons, ih, map_spaced_encodeChar, List.map_cons, Utf8.encode, Utf8.encode,
      List.flatMap_cons]

/-- **Without triplets only a `+` is decoded.** -/
theorem decode_of_notMem {s : List Char} (h : '%' ∉ s) : decode s = s.map spacedChar := by
  have hmark : '%' ∉ s.map spacedChar := by
    intro hm
    obtain ⟨c, hc, heq⟩ := List.mem_map.1 hm
    exact h (spacedChar_eq_mark_iff.1 heq ▸ hc)
  show Utf8.decodeLossy (Percent.decode (spacedBytes s)) = _
  rw [spacedBytes_eq_encode, Percent.decode_of_notMem (Percent.mark_notMem_encode hmark),
    Utf8.decodeLossy_encode]

/-- A key without triplets that is read as a text without `+` and spaces is that text. -/
theorem decode_eq_iff_of_notMem {s t : List Char} (hs : '%' ∉ s) (hplus : '+' ∉ t)
    (hspace : ' ' ∉ t) : decode s = t ↔ s = t := by
  have hkeep (r : List Char) (h : '+' ∉ r) : r.map spacedChar = r :=
    (List.map_congr_left fun c hc ↦ if_neg fun heq : c = '+' ↦ h (heq ▸ hc)).trans (List.map_id _)
  rw [decode_of_notMem hs]
  constructor
  · intro h
    rw [← hkeep s, h]
    intro hm
    exact hspace (h ▸ List.mem_map.2 ⟨'+', hm, rfl⟩)
  · rintro rfl
    exact hkeep s hplus

end Form

end Text

/-! ### Inputs -/

namespace Command.Input

open Unscramble.Media
open Unscramble.Text.Form (fields keyText)

/-- What the address of a cipher is named. -/
def urlKey : List Char :=
  "url".toList

/-- A field of a text that is read as an address. -/
def IsAddress (v : List Char) (i : ℕ) (field : List Char) : Prop :=
  (fields v)[i]? = some field ∧ Form.decode (keyText field) = urlKey

/-- A field that does not begin with its name and `=`: the name is written with triplets, no `=`
follows it, or question marks stand in front of it. -/
def IsHidden (v : List Char) (i : ℕ) (field : List Char) : Prop :=
  '%' ∈ keyText field ∨ '=' ∉ field ∨ i = 0 ∧ v.head? = some '?'

/-- A text has an address that is not hidden. -/
def ShowsAddress (v : List Char) : Prop :=
  ∃ i field, IsAddress v i field ∧ ¬ IsHidden v i field

/-- What is read as a cipher has a field with the address. -/
theorem exists_isAddress {v url : List Char} (h : Form.value? v urlKey = some url) :
    ∃ i field, IsAddress v i field := by
  obtain ⟨field, hfield, hkey⟩ :=
    (Form.isSome_value?_iff (by decide)).1 (Option.isSome_of_eq_some h)
  obtain ⟨i, hi⟩ := List.mem_iff_getElem?.1 hfield
  exact ⟨i, field, hi, hkey⟩

/-- A field begins with `url=` exactly if it is read as an address and shows its name. -/
theorem isPrefixOf_iff {field : List Char} :
    "url=".toList.isPrefixOf field = true ↔
      Form.decode (keyText field) = urlKey ∧ '%' ∉ keyText field ∧ '=' ∈ field := by
  rw [List.isPrefixOf_iff_prefix]
  constructor
  · rintro ⟨value, rfl⟩
    have htext : keyText ("url=".toList ++ value) = urlKey := rfl
    rw [htext]
    exact ⟨by decide, by decide, List.mem_append_left value (by decide)⟩
  · rintro ⟨hkey, hmark, hequals⟩
    obtain ⟨key, value, rfl, hnone⟩ := List.eq_append_cons_of_mem hequals
    rw [Form.keyText_append_cons hnone] at hkey hmark
    obtain rfl := (Form.decode_eq_iff_of_notMem hmark (by decide) (by decide)).1 hkey
    exact ⟨value, rfl⟩

/-- **The fields of a text are its pieces**, but for the question marks in front of the first. -/
theorem exists_fields (v : List Char) : ∃ marks head tail, fields v = head :: tail ∧
    pieces (· == '&') v = (marks ++ head) :: tail ∧
      (v.head? = some '?' → marks.head? = some '?') ∧ (v.head? ≠ some '?' → marks = []) := by
  have hmarks : '&' ∉ v.takeWhile (· == '?') := by
    intro h
    have := List.mem_takeWhile_imp h
    contradiction
  obtain ⟨head, tail, hfields, hpieces⟩ :=
    exists_pieces_append hmarks (v.dropWhile (· == '?'))
  rw [List.takeWhile_append_dropWhile] at hpieces
  refine ⟨v.takeWhile (· == '?'), head, tail, hfields, hpieces, ?_, ?_⟩
  · rcases v with - | ⟨c, v⟩
    · nofun
    · intro h
      obtain rfl : c = '?' := Option.some.inj h
      rfl
  · rcases v with - | ⟨c, v⟩
    · exact fun _ ↦ rfl
    · intro h
      exact List.takeWhile_cons_of_neg fun hc ↦ h (congrArg some (beq_iff_eq.1 hc))

/-- **What is taken for a cipher** are the texts with an address that is not hidden. -/
theorem of_eq_query_iff (v : List Char) : of v = .query v ↔ ShowsAddress v := by
  have hof : of v = .query v ↔
      ∃ piece ∈ pieces (· == '&') v, "url=".toList.isPrefixOf piece = true := by
    rw [← List.any_eq_true, of]
    split
    · next h => exact iff_of_true rfl h
    · next h => exact iff_of_false nofun h
  obtain ⟨marks, head, tail, hfields, hpieces, hmarked, hunmarked⟩ := exists_fields v
  rw [hof, hpieces, List.exists_mem_cons_iff]
  -- the first piece is the first field if there are no marks, and begins with one otherwise
  have hfirst : "url=".toList.isPrefixOf (marks ++ head) = true ↔
      "url=".toList.isPrefixOf head = true ∧ v.head? ≠ some '?' := by
    by_cases hv : v.head? = some '?'
    · obtain ⟨rest, hrest⟩ := List.head?_eq_some_iff.1 (hmarked hv)
      rw [hrest]
      exact iff_of_false (by simp) fun h ↦ h.2 hv
    · rw [hunmarked hv, List.nil_append]
      exact (and_iff_left hv).symm
  constructor
  · rintro (h | ⟨field, hfield, h⟩)
    · obtain ⟨hhead, hv⟩ := hfirst.1 h
      obtain ⟨hkey, hmark, hequals⟩ := isPrefixOf_iff.1 hhead
      refine ⟨0, head, ⟨by rw [hfields]; rfl, hkey⟩, ?_⟩
      rintro (h | h | ⟨-, h⟩)
      exacts [hmark h, h hequals, hv h]
    · obtain ⟨i, hi⟩ := List.mem_iff_getElem?.1 hfield
      obtain ⟨hkey, hmark, hequals⟩ := isPrefixOf_iff.1 h
      refine ⟨i + 1, field, ⟨by rw [hfields]; exact hi, hkey⟩, ?_⟩
      rintro (h | h | ⟨h, -⟩)
      exacts [hmark h, h hequals, by omega]
  · rintro ⟨i, field, ⟨hi, hkey⟩, hshown⟩
    rw [hfields] at hi
    rw [IsHidden, not_or, not_or, not_not] at hshown
    obtain ⟨hmark, hequals, hfront⟩ := hshown
    have hstart := isPrefixOf_iff.2 ⟨hkey, hmark, hequals⟩
    cases i with
    | zero =>
      obtain rfl : head = field := Option.some.inj hi
      exact .inl (hfirst.2 ⟨hstart, fun hv ↦ hfront ⟨rfl, hv⟩⟩)
    | succ i => exact .inr ⟨field, List.mem_of_getElem? hi, hstart⟩

theorem of_eq_token_iff (v : List Char) : of v = .token v ↔ ¬ ShowsAddress v := by
  rw [← of_eq_query_iff]
  unfold of
  split <;> simp

/-- **What is taken for a cipher has an address.** It can lack only its token. -/
theorem url_of_query {v w : List Char} (h : of v = .query w) :
    (∃ url, Form.value? v urlKey = some url) ∧
      ((∃ c, Cipher.read v = .ok c) ∨ Cipher.read v = .error (.missingField "s")) ∧
        Cipher.read v ≠ .error (.missingField "url") := by
  have htext : w = v := by
    have := text_of v
    rwa [h] at this
  rw [htext, of_eq_query_iff] at h
  obtain ⟨i, field, ⟨hi, hkey⟩, -⟩ := h
  have hsome := (Form.isSome_value?_iff (by decide)).2 ⟨field, List.mem_of_getElem? hi, hkey⟩
  obtain ⟨url, hurl⟩ := Option.isSome_iff_exists.1 hsome
  refine ⟨⟨url, hurl⟩, ?_⟩
  rcases htoken : Form.value? v ['s'] with - | token
  · rw [Cipher.read_of_noToken htoken]
    exact ⟨.inr rfl, by decide⟩
  · rw [Cipher.read_of_fields htoken hurl]
    exact ⟨.inl ⟨_, rfl⟩, nofun⟩

/-- A text that is taken for a cipher, although the first of its fields has marks in front. It lacks
its token. -/
theorem url_of_query_noToken :
    of "?sp=sig&url=x".toList = .query "?sp=sig&url=x".toList ∧
      Cipher.read "?sp=sig&url=x".toList = .error (.missingField "s") := by
  have h : of "?sp=sig&url=x".toList = .query "?sp=sig&url=x".toList := by decide
  have hnone : Form.value? "?sp=sig&url=x".toList ['s'] = none := by decide
  refine ⟨h, (url_of_query h).2.1.resolve_left ?_⟩
  rintro ⟨c, hc⟩
  rw [Cipher.read_of_noToken hnone] at hc
  cases hc

/-- **What is done with a cipher** depends on whether its address is hidden. It has one, in one of
its fields at least. If one of these shows its name, the cipher is signed; and if all are hidden,
the whole text is run as a token. -/
theorem unscramble_of_cipher {v : List Char} {c : Cipher} (h : Cipher.read v = .ok c) :
    (∃ i field, IsAddress v i field) ∧
      (ShowsAddress v ↔ of v = .query v ∧ ∀ u, (of v).unscramble u = c.sign u) ∧
      (¬ ShowsAddress v ↔
        of v = .token v ∧ ∀ u, (of v).unscramble u = (u.runText v).mapError .script) := by
  refine ⟨exists_isAddress (Cipher.fields_of_read h).2, ?_, ?_⟩
  · rw [← of_eq_query_iff]
    refine ⟨fun hquery ↦ ⟨hquery, fun u ↦ ?_⟩, fun hquery ↦ hquery.1⟩
    rw [hquery, unscramble, h]
    rfl
  · rw [← of_eq_token_iff]
    refine ⟨fun htoken ↦ ⟨htoken, fun u ↦ ?_⟩, fun htoken ↦ htoken.1⟩
    rw [htoken]
    rfl

/-- A cipher with a question mark in front of its address is run as a token. -/
theorem unscramble_of_cipher_mark :
    Cipher.read "?url=x&s=abc".toList = .ok ⟨"abc".toList, Cipher.usualKey, "x".toList⟩ ∧
      ∀ u : Unscrambler, (of "?url=x&s=abc".toList).unscramble u =
        (u.runText "?url=x&s=abc".toList).mapError .script := by
  have hread : Cipher.read "?url=x&s=abc".toList =
      .ok ⟨"abc".toList, Cipher.usualKey, "x".toList⟩ :=
    Cipher.read_of_fields (by decide) (by decide)
  have htoken : of "?url=x&s=abc".toList = .token "?url=x&s=abc".toList := by decide
  exact ⟨hread, ((unscramble_of_cipher hread).2.2.1 ((of_eq_token_iff _).1 htoken)).2⟩

end Command.Input

end Unscramble

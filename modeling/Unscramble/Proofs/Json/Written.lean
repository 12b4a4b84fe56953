import Mathlib.Data.List.Basic
import Unscramble.Json.Decoder
import Unscramble.Json.Value

/-!
# A JSON text is read as what was written

The written form of a value is read back part by part, whatever follows the part: an escape up to
its last character, a string up to its closing quote, a number up to the first character that does
not go on with it (`EndsNumber`), which is what a comma or a closing bracket is. A first element is
read as if a comma stood before it, so that the elements of an array are all read alike, and the
members of an object likewise.

Reading goes by fuel. A value takes less of it than its text has characters, and what follows an
element takes no more, so `Draft.read` has enough for every text.

## Main definitions

* `Value.draft`: what the text of a value is read as.
* `EndsNumber`, `StartsValue`: what may stand behind a number, and what a value begins with.

## Main statements

* `scanString_escapeChar`: an escaped character is read back.
* `readNumber_toDigits`: a number is read back.
* `readValue_text`: a value is read back up to what follows it.
* `Decoder.run_text`: what a decoder takes out of a written value.
-/

namespace Unscramble.Json

open Unscramble.Text

/-! ### Strings -/

/-- The four digits of a control character. -/
theorem fourDigits_lowerByte {n : ℕ} (h : n < 32) (rest : List Char) :
    fourDigits ('0' :: '0' :: Hex.lowerByte n.toUInt8 ++ rest) = .ok n := by
  have hall : ∀ n < 32, Hex.value? ('0' :: '0' :: Hex.lowerByte n.toUInt8) = some n := by decide
  have htake : ('0' :: '0' :: Hex.lowerByte n.toUInt8 ++ rest).take 4 =
      '0' :: '0' :: Hex.lowerByte n.toUInt8 := rfl
  rw [fourDigits, htake, hall n h]
  exact if_neg (by simp [Hex.lowerByte])

/-- An escape by number stands for the control character that it was written for. -/
theorem escapeOf_number {c : Char} (h : c < ' ') (rest : List Char) :
    escapeOf ('u' :: '0' :: '0' :: Hex.lowerByte c.toNat.toUInt8 ++ rest) = ⟨.ok c, .ok 5⟩ := by
  have hlt : c.toNat < 32 := h
  show escapeByNumber ('0' :: '0' :: Hex.lowerByte c.toNat.toUInt8 ++ rest) = _
  rw [escapeByNumber, fourDigits_lowerByte hlt]
  simp only
  -- a control character is no half of a surrogate pair
  rw [if_neg (by omega), if_neg (by omega), Char.ofNat_toNat]

/-- A backslash and what belongs to it stand for one character. -/
theorem scanString_backslash {c : Char} {w : List Char} (rest : List Char)
    (h : escapeOf (w ++ rest) = ⟨.ok c, .ok w.length⟩) :
    scanString ('\\' :: w ++ rest) = (scanString rest).cons (.ok c) := by
  rw [List.cons_append, scanString, if_neg (by decide), if_pos rfl]
  simp only [h, List.drop_left]

/-- **An escaped character is read back**, whatever follows it. -/
theorem scanString_escapeChar (c : Char) (rest : List Char) :
    scanString (escapeChar c ++ rest) = (scanString rest).cons (.ok c) := by
  unfold escapeChar
  split_ifs with hquote hbackslash hb hf hn hr ht hcontrol
  · subst hquote
    exact scanString_backslash (w := ['"']) rest rfl
  · subst hbackslash
    exact scanString_backslash (w := ['\\']) rest rfl
  · subst hb
    exact scanString_backslash (w := ['b']) rest rfl
  · subst hf
    exact scanString_backslash (w := ['f']) rest rfl
  · subst hn
    exact scanString_backslash (w := ['n']) rest rfl
  · subst hr
    exact scanString_backslash (w := ['r']) rest rfl
  · subst ht
    exact scanString_backslash (w := ['t']) rest rfl
  · exact scanString_backslash (w := 'u' :: '0' :: '0' :: Hex.lowerByte c.toNat.toUInt8) rest
      (escapeOf_number hcontrol rest)
  · rw [List.singleton_append, scanString, if_neg hquote, if_neg hbackslash, if_neg hcontrol]

theorem scanString_flatMap (s rest : List Char) :
    scanString (s.flatMap escapeChar ++ '"' :: rest) = ⟨.ok s, .ok rest⟩ := by
  induction s with
  | nil => rw [List.flatMap_nil, List.nil_append, scanString, if_pos rfl]
  | cons c s ih => rw [List.flatMap_cons, List.append_assoc, scanString_escapeChar, ih]; rfl

theorem quote_append (s rest : List Char) :
    quote s ++ rest = '"' :: (s.flatMap escapeChar ++ '"' :: rest) := by
  simp [quote]

/-! ### Numbers -/

/-- What follows a number does not go on with it. -/
def EndsNumber (rest : List Char) : Prop :=
  ∀ c ∈ rest.head?, c.isDigit = false ∧ c ≠ '.' ∧ c ≠ 'e' ∧ c ≠ 'E'

/-- Only the number zero begins with a zero. -/
theorem head_toDigits_ne_zero (n : ℕ) (h : n ≠ 0) : (Nat.toDigits 10 n).head? ≠ some '0' := by
  induction n using Nat.strongRecOn with
  | ind n ih =>
    rw [Nat.toDigits_eq_if (by decide)]
    split
    · next hlt =>
      have hall : ∀ n < 10, n ≠ 0 → [Nat.digitChar n].head? ≠ some '0' := by decide
      exact hall n hlt h
    · next hge =>
      rw [List.head?_append_of_ne_nil _ Nat.toDigits_ne_nil]
      exact ih (n / 10) (by omega) (by omega)

/-- Digits are read up to the first character that is none. -/
theorem readDigits_append {w rest : List Char} (hne : w ≠ []) (hw : ∀ c ∈ w, c.isDigit = true)
    (h : ∀ c ∈ rest.head?, c.isDigit = false) : readDigits (w ++ rest) = .ok (w, rest) := by
  have hstop : rest.takeWhile Char.isDigit = [] ∧ rest.dropWhile Char.isDigit = rest := by
    rcases rest with - | ⟨c, rest⟩
    · exact ⟨rfl, rfl⟩
    · have hc : ¬ c.isDigit = true := Bool.eq_false_iff.1 (h c rfl)
      exact ⟨List.takeWhile_cons_of_neg hc, List.dropWhile_cons_of_neg hc⟩
  rw [readDigits, List.takeWhile_append_of_pos hw, List.dropWhile_append_of_pos hw, hstop.1,
    hstop.2, List.append_nil]
  obtain ⟨c, w, rfl⟩ := List.exists_cons_of_ne_nil hne
  rfl

theorem readWhole_toDigits (n : ℕ) {rest : List Char} (h : EndsNumber rest) :
    readWhole (Nat.toDigits 10 n ++ rest) = .ok (Nat.toDigits 10 n, rest) := by
  by_cases hn : n = 0
  · subst hn
    have hhead : rest.head?.any Char.isDigit = false := by
      rcases rest with - | ⟨c, rest⟩
      · rfl
      · exact (h c rfl).1
    show (if rest.head?.any Char.isDigit then _ else _) = _
    rw [hhead, if_neg (by decide)]
    rfl
  · unfold readWhole
    split
    · next r hs =>
      have hhead := head_toDigits_ne_zero n hn
      rw [← List.head?_append_of_ne_nil _ Nat.toDigits_ne_nil, hs] at hhead
      exact absurd rfl hhead
    · exact readDigits_append Nat.toDigits_ne_nil
        (fun c hc ↦ Nat.isDigit_of_mem_toDigits (by decide) (by decide) hc) fun c hc ↦ (h c hc).1

/-- **A number is read back** up to what follows it. -/
theorem readNumber_toDigits (n : ℕ) {rest : List Char} (h : EndsNumber rest) :
    readNumber false (Nat.toDigits 10 n ++ rest) =
      .ok (⟨false, Nat.toDigits 10 n, none, none⟩, rest) := by
  have hfraction : readFraction rest = .ok (none, rest) := by
    unfold readFraction
    split
    · exact absurd rfl (h '.' rfl).2.1
    · rfl
  have hexponent : readExponent rest = .ok (none, rest) := by
    rcases rest with - | ⟨c, rest⟩
    · rfl
    · obtain ⟨-, -, he, hE⟩ := h c rfl
      exact if_neg (not_or.2 ⟨he, hE⟩)
  rw [readNumber, readWhole_toDigits n h]
  simp only [bind, Except.bind, hfraction, hexponent]
  rfl

/-! ### What values begin with -/

/-- A text that begins with a character that no space is, and that does not end an array. -/
def StartsValue (s : List Char) : Prop :=
  ∃ c r, s = c :: r ∧ isSpace c = false ∧ c ≠ ']'

theorem StartsValue.append {s : List Char} (h : StartsValue s) (rest : List Char) :
    StartsValue (s ++ rest) := by
  obtain ⟨c, r, rfl, hc⟩ := h
  exact ⟨c, r ++ rest, rfl, hc⟩

theorem exists_toDigits (n : ℕ) :
    ∃ c r, Nat.toDigits 10 n = c :: r ∧ c.isDigit = true := by
  obtain ⟨c, r, h⟩ := List.exists_cons_of_ne_nil (Nat.toDigits_ne_nil (n := n) (b := 10))
  exact ⟨c, r, h, Nat.isDigit_of_mem_toDigits (by decide) (by decide) (h ▸ List.mem_cons_self)⟩

theorem isSpace_of_isDigit {c : Char} (h : c.isDigit = true) : isSpace c = false := by
  rw [← Bool.not_eq_true]
  intro hspace
  simp only [isSpace, Bool.or_eq_true, beq_iff_eq] at hspace
  rcases hspace with ((rfl | rfl) | rfl) | rfl <;> exact absurd h (by decide)

theorem ne_of_isDigit {c d : Char} (h : c.isDigit = true) (hd : d.isDigit = false) : c ≠ d := by
  rintro rfl
  rw [h] at hd
  exact absurd hd (by decide)

theorem startsValue_text (v : Value) : StartsValue v.text := by
  match v with
  | .null => exact ⟨_, _, rfl, rfl, by decide⟩
  | .bool true | .bool false => exact ⟨_, _, rfl, rfl, by decide⟩
  | .number n =>
    obtain ⟨c, r, h, hc⟩ := exists_toDigits n
    exact ⟨c, r, h, isSpace_of_isDigit hc, ne_of_isDigit hc rfl⟩
  | .string s => exact ⟨_, _, rfl, rfl, by decide⟩
  | .array [] | .array (_ :: _) => exact ⟨_, _, rfl, rfl, by decide⟩
  | .object [] | .object (_ :: _) => exact ⟨_, _, rfl, rfl, by decide⟩

theorem skipSpace_of_isSpace {c : Char} (h : isSpace c = false) (r : List Char) :
    skipSpace (c :: r) = c :: r :=
  List.dropWhile_cons_of_neg (by simp [h])

/-! ### One step of reading -/

theorem readValue_bool (fuel : ℕ) (b : Bool) (rest : List Char) :
    readValue (fuel + 1) ((Value.bool b).text ++ rest) = (.bool b, some rest) := by
  cases b <;> rfl

theorem readValue_number (fuel n : ℕ) {rest : List Char} (h : EndsNumber rest) :
    readValue (fuel + 1) (Nat.toDigits 10 n ++ rest) =
      (.number ⟨false, Nat.toDigits 10 n, none, none⟩, some rest) := by
  have hread := readNumber_toDigits n h
  obtain ⟨c, r, hdigits, hc⟩ := exists_toDigits n
  rw [hdigits, List.cons_append] at hread ⊢
  rw [readValue, skipSpace_of_isSpace (isSpace_of_isDigit hc)]
  simp only
  rw [if_neg (ne_of_isDigit hc rfl), if_neg (ne_of_isDigit hc rfl), if_neg (ne_of_isDigit hc rfl),
    if_neg (ne_of_isDigit hc rfl), if_pos hc, hread]
  rfl

theorem readValue_string (fuel : ℕ) (s rest : List Char) :
    readValue (fuel + 1) (quote s ++ rest) = (.string (.ok s), some rest) := by
  rw [quote_append, readValue, skipSpace_of_isSpace rfl]
  simp [scanString_flatMap]

/-- A first element is read as if a comma stood before it. -/
theorem readItems_true (fuel : ℕ) {s : List Char} (h : StartsValue s) :
    readItems fuel true s = readItems fuel false (',' :: s) := by
  obtain ⟨c, r, rfl, hspace, hne⟩ := h
  have hcomma : skipSpace (',' :: c :: r) = ',' :: c :: r := rfl
  rcases fuel with - | fuel
  · rfl
  · simp [readItems, skipSpace_of_isSpace hspace, hcomma, hne]

theorem readItems_cons {fuel : ℕ} {s rest : List Char} {d : Draft} (h : StartsValue s)
    (hread : readValue fuel s = (d, some rest)) :
    readItems (fuel + 1) false (',' :: s) =
      (.more d (readItems fuel false rest).1, (readItems fuel false rest).2) := by
  obtain ⟨c, r, rfl, hspace, hne⟩ := h
  have hcomma : skipSpace (',' :: c :: r) = ',' :: c :: r := rfl
  simp [readItems, skipSpace_of_isSpace hspace, hcomma, hne, hread]

/-- A first member is read as if a comma stood before it. -/
theorem readMembers_true (fuel : ℕ) (key rest : List Char) :
    readMembers fuel true (quote key ++ rest) =
      readMembers fuel false (',' :: (quote key ++ rest)) := by
  rcases fuel with - | fuel <;> rfl

theorem readMembers_cons {fuel : ℕ} (key : List Char) {s rest : List Char} {d : Draft}
    (hread : readValue fuel s = (d, some rest)) :
    readMembers (fuel + 1) false (',' :: (quote key ++ ':' :: s)) =
      (.more (.ok key) d (readMembers fuel false rest).1, (readMembers fuel false rest).2) := by
  have hcolon : skipSpace (':' :: s) = ':' :: s := rfl
  have hquote (r : List Char) : skipSpace ('"' :: r) = '"' :: r := rfl
  rw [quote_append, readMembers, skipSpace_of_isSpace rfl]
  simp [hquote, scanString_flatMap, hcolon, hread]

/-! ### Values -/

mutual

/-- What the text of a value is read as. -/
def Value.draft : Value → Draft
  | .null => .null
  | .bool b => .bool b
  | .number n => .number ⟨false, Nat.toDigits 10 n, none, none⟩
  | .string s => .string (.ok s)
  | .array items => .array (itemsDraft items)
  | .object members => .object (membersDraft members)

/-- What elements are read as. -/
def itemsDraft : List Value → Items
  | [] => .done .closed
  | v :: r => .more v.draft (itemsDraft r)

/-- What members are read as. -/
def membersDraft : List (String × Value) → Members
  | [] => .done .closed
  | (key, v) :: r => .more (.ok key.toList) v.draft (membersDraft r)

end

theorem endsNumber_cons {c : Char} (h : c = ',' ∨ c = ']' ∨ c = '\x7d') (r : List Char) :
    EndsNumber (c :: r) := by
  intro d hd
  obtain rfl : c = d := Option.some.inj hd
  rcases h with rfl | rfl | rfl <;> decide

theorem endsNumber_itemsText (vs : List Value) (rest : List Char) :
    EndsNumber (itemsText vs ++ rest) := by
  match vs with
  | [] => exact endsNumber_cons (.inr (.inl rfl)) _
  | _ :: _ => exact endsNumber_cons (.inl rfl) _

theorem endsNumber_membersText (ms : List (String × Value)) (rest : List Char) :
    EndsNumber (membersText ms ++ rest) := by
  match ms with
  | [] => exact endsNumber_cons (.inr (.inr rfl)) _
  | _ :: _ => exact endsNumber_cons (.inl rfl) _

theorem itemsText_cons_append (v : Value) (r : List Value) (rest : List Char) :
    itemsText (v :: r) ++ rest = ',' :: (v.text ++ (itemsText r ++ rest)) := by
  simp [itemsText]

theorem membersText_cons_append (key : String) (v : Value) (r : List (String × Value))
    (rest : List Char) :
    membersText ((key, v) :: r) ++ rest =
      ',' :: (quote key.toList ++ ':' :: (v.text ++ (membersText r ++ rest))) := by
  simp [membersText]

theorem itemsText_ne_nil (vs : List Value) : itemsText vs ≠ [] := by
  match vs with
  | [] => exact List.cons_ne_nil _ _
  | _ :: _ => exact List.cons_ne_nil _ _

-- The fuel for a value is more than its text has characters, and the fuel for elements or members
-- at least as much: an opening bracket takes one, and so does a comma.
mutual

/-- **A value is read back** up to what follows it. -/
theorem readValue_text (v : Value) {fuel : ℕ} (hfuel : v.text.length < fuel) {rest : List Char}
    (h : EndsNumber rest) : readValue fuel (v.text ++ rest) = (v.draft, some rest) := by
  obtain ⟨fuel, rfl⟩ := Nat.exists_eq_succ_of_ne_zero (Nat.ne_zero_of_lt hfuel)
  have hfuel : v.text.length ≤ fuel := Nat.le_of_lt_succ hfuel
  match v with
  | .null => rfl
  | .bool b => exact readValue_bool fuel b rest
  | .number n => exact readValue_number fuel n h
  | .string s => exact readValue_string fuel s rest
  | .array [] =>
    obtain ⟨fuel, rfl⟩ := Nat.exists_eq_add_of_le' hfuel
    rfl
  | .array (v :: r) =>
    have hopen : (Value.array (v :: r)).text ++ rest =
        '[' :: (v.text ++ (itemsText r ++ rest)) := by simp [Value.text]
    have hlength : (itemsText (v :: r)).length ≤ fuel := hfuel
    rw [hopen]
    rw [readValue, skipSpace_of_isSpace rfl]
    simp [readItems_true fuel ((startsValue_text v).append _), ← itemsText_cons_append,
      readItems_text (v :: r) hlength rest, Value.draft]
  | .object [] =>
    obtain ⟨fuel, rfl⟩ := Nat.exists_eq_add_of_le' hfuel
    rfl
  | .object ((key, v) :: r) =>
    have hopen : (Value.object ((key, v) :: r)).text ++ rest =
        '\x7b' :: (quote key.toList ++ ':' :: (v.text ++ (membersText r ++ rest))) := by
      simp [Value.text]
    have hlength : (membersText ((key, v) :: r)).length ≤ fuel := hfuel
    rw [hopen]
    rw [readValue, skipSpace_of_isSpace rfl]
    simp [readMembers_true, ← membersText_cons_append,
      readMembers_text ((key, v) :: r) hlength rest, Value.draft]

/-- Further elements are read back, and the end of their array. -/
theorem readItems_text (vs : List Value) {fuel : ℕ} (hfuel : (itemsText vs).length ≤ fuel)
    (rest : List Char) :
    readItems fuel false (itemsText vs ++ rest) = (itemsDraft vs, some rest) := by
  match vs with
  | [] =>
    obtain ⟨fuel, rfl⟩ := Nat.exists_eq_add_of_le' hfuel
    rfl
  | v :: r =>
    have hlength : (itemsText (v :: r)).length = v.text.length + (itemsText r).length + 1 := by
      simp [itemsText]
    have hpos := List.length_pos_of_ne_nil (itemsText_ne_nil r)
    obtain ⟨fuel, rfl⟩ := Nat.exists_eq_add_of_le' (Nat.one_le_of_lt (hlength ▸ hfuel))
    have hvalue : v.text.length < fuel := by omega
    have hfirst := readValue_text v hvalue (endsNumber_itemsText r rest)
    rw [itemsText_cons_append, readItems_cons ((startsValue_text v).append _) hfirst,
      readItems_text r (by omega) rest]
    rfl

/-- Further members are read back, and the end of their object. -/
theorem readMembers_text (ms : List (String × Value)) {fuel : ℕ}
    (hfuel : (membersText ms).length ≤ fuel) (rest : List Char) :
    readMembers fuel false (membersText ms ++ rest) = (membersDraft ms, some rest) := by
  match ms with
  | [] =>
    obtain ⟨fuel, rfl⟩ := Nat.exists_eq_add_of_le' hfuel
    rfl
  | (key, v) :: r =>
    have hlength : (membersText ((key, v) :: r)).length =
        (quote key.toList).length + v.text.length + (membersText r).length + 2 := by
      simp [membersText]
      omega
    obtain ⟨fuel, rfl⟩ := Nat.exists_eq_add_of_le' (Nat.one_le_of_lt (hlength ▸ hfuel))
    have hvalue : v.text.length < fuel := by omega
    have hfirst := readValue_text v hvalue (endsNumber_membersText r rest)
    rw [membersText_cons_append, readMembers_cons key.toList hfirst,
      readMembers_text r (by omega) rest]
    rfl

end

/-- **A text is read as what was written.** -/
theorem read_text (v : Value) : Draft.read v.text = (v.draft, some []) := by
  have hends : EndsNumber [] := fun c hc ↦ absurd hc (by simp)
  have hfuel : v.text.length < 2 * v.text.length + 1 := by omega
  have h := readValue_text v hfuel hends
  rwa [List.append_nil] at h

theorem Decoder.run_text {α : Type} {decode : Decoder α} {v : Value} {a : α}
    (h : decode v.draft = .ok a) : decode.run v.text = .ok a := by
  rw [Decoder.run, read_text]
  simp only [h]
  rfl

end Unscramble.Json

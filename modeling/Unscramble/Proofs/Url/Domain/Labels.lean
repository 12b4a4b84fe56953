import Unscramble.Proofs.OneByOne
import Unscramble.Proofs.Text.Punycode
import Unscramble.Proofs.Text.Split
import Unscramble.Proofs.Url.Domain.Composed

/-!
# A domain name is read again

A domain name that has been read is written in ASCII, and its written form is a domain name again.
Each of its characters stands for itself, so the name comes apart into the labels that it was put
together from, and each label is read as what it was read as before: one in ASCII as it stands, and
another one from its Punycode.

There is one exception. A label is written in Punycode whatever becomes of its length, but what is
longer than two thousand characters is not read. So it depends on the written name whether it is
read again, and `isLegible` says when.

## Main definitions

* `isLegible`: a name in which no label is written with too many characters.

## Main statements

* `Label.read?_ascii`: a label is read again.
* `read?_of_read?`: **a name is read again as itself**, exactly if it is legible.
-/

namespace Unscramble.Url.Domain

open Unscramble.Text Unscramble.Text.Normal

/-! ### Lists of readings -/

/-- The items of a list are read one by one. -/
theorem forall₂_of_mapM {α β : Type} {f : α → Option β} {xs : List α} {ys : List β}
    (h : xs.mapM f = some ys) : List.Forall₂ (fun x y ↦ f x = some y) xs ys := by
  induction xs generalizing ys with
  | nil =>
    obtain rfl := Option.some.inj h
    exact .nil
  | cons x xs ih =>
    rw [List.mapM_cons] at h
    cases hx : f x with
    | none =>
      rw [hx] at h
      cases h
    | some y =>
      cases hxs : xs.mapM f with
      | none =>
        rw [hx, hxs] at h
        cases h
      | some later =>
        rw [hx, hxs] at h
        obtain rfl := Option.some.inj h
        exact .cons hx (ih hxs)

/-- What is read from a list is read from its items. -/
theorem exists_of_mem_mapM {α β : Type} {f : α → Option β} {xs : List α} {ys : List β}
    (h : xs.mapM f = some ys) {y : β} (hy : y ∈ ys) : ∃ x ∈ xs, f x = some y :=
  exists_of_mem_right (forall₂_of_mapM h) hy

theorem mapM_cons_of_eq {α β : Type} {f : α → Option β} {x : α} {y : β} (h : f x = some y)
    (xs : List α) : (x :: xs).mapM f = (xs.mapM f).map (y :: ·) := by
  rw [List.mapM_cons, h]
  cases xs.mapM f <;> rfl

/-! ### Characters -/

/-- A text whose characters stand for themselves. -/
def IsFolded (s : List Char) : Prop :=
  ∀ c ∈ s, c.toNat < 0x80 ∧ fold? c = some [c]

/-- Characters that stand for themselves are not replaced. -/
theorem mapM_fold? {s : List Char} (h : ∀ c ∈ s, fold? c = some [c]) :
    s.mapM fold? = some (s.map ([·])) := by
  induction s with
  | nil => rfl
  | cons c s ih =>
    rw [List.forall_mem_cons] at h
    rw [mapM_cons_of_eq h.1, ih h.2]
    rfl

theorem IsFolded.composed_eq {s : List Char} (h : IsFolded s) : composed s = s := by
  rw [composed, if_pos]
  exact List.all_eq_true.2 fun c hc ↦ decide_eq_true (h c hc).1

theorem IsFolded.notMem {s : List Char} (h : IsFolded s) : '%' ∉ s := by
  intro hm
  have hrefused : fold? '%' = none := by decide
  have := (h '%' hm).2
  rw [hrefused] at this
  cases this

/-- Digits of Punycode stand for themselves. -/
theorem fold?_of_isDigit {c : Char} (h : Punycode.IsDigit c) :
    c.toNat < 0x80 ∧ fold? c = some [c] ∧ c ≠ '.' := by
  obtain ⟨n, hn, rfl⟩ := h
  have hall : ∀ m < 36, (Punycode.digit m).toNat < 0x80 ∧
      fold? (Punycode.digit m) = some [Punycode.digit m] ∧ Punycode.digit m ≠ '.' := by
    decide +kernel
  exact hall n hn

/-- So do the characters that mark a label in Punycode. -/
theorem fold?_of_mem_mark : ∀ c ∈ mark, c.toNat < 0x80 ∧ fold? c = some [c] ∧ c ≠ '.' := by
  have hall : (mark.all fun c ↦
      decide (c.toNat < 0x80) && fold? c == some [c] && c != '.') = true := by
    decide +kernel
  intro c hc
  simpa [and_assoc] using List.all_eq_true.1 hall c hc

/-! ### Labels -/

/-- Whether a written label is not too long to be read from Punycode. -/
def isLegibleLabel (label : List Char) : Bool :=
  match strip? mark label with
  | some code => code.length ≤ 2000
  | none => true

/-- Whether no label of a written name is too long to be read from Punycode. -/
def isLegible (name : List Char) : Bool :=
  (pieces (· == '.') name).all isLegibleLabel

namespace Label

/-- A label is read from ASCII, or written in Punycode. -/
theorem cases_of_read? {s : List Char} {l : Label} (h : Label.read? s = some l) :
    (l.ascii = s ∧ (∀ c ∈ s, c.toNat < 0x80) ∧ isLegibleLabel s = true) ∨
      (l = ⟨mark ++ Punycode.encode s, s⟩ ∧ isSettled s = true ∧ ∃ c ∈ s, 0x80 ≤ c.toNat) := by
  rw [Label.read?] at h
  split at h
  · next hall =>
    have hascii : ∀ c ∈ s, c.toNat < 0x80 := fun c hc ↦
      of_decide_eq_true (List.all_eq_true.1 hall c hc)
    split at h
    · next hmark =>
      obtain rfl := Option.some.inj h
      refine .inl ⟨rfl, hascii, ?_⟩
      rw [isLegibleLabel, hmark]
    · next code hmark =>
      split at h
      · cases h
      · next hcode =>
        split at h
        · split at h
          · obtain rfl := Option.some.inj h
            refine .inl ⟨rfl, hascii, ?_⟩
            simp only [Bool.or_eq_true, decide_eq_true_iff, not_or, Nat.not_lt] at hcode
            rw [isLegibleLabel, hmark]
            exact decide_eq_true hcode.2
          · cases h
        · cases h
  · next hall =>
    split at h
    · next hsettled =>
      obtain rfl := Option.some.inj h
      simp only [Bool.and_eq_true] at hsettled
      refine .inr ⟨rfl, hsettled.1.1, ?_⟩
      simpa using hall
    · cases h

/-- The characters of a written label stand for themselves, and do not end the label. -/
theorem fold?_of_mem_ascii {s : List Char} {l : Label} (h : Label.read? s = some l)
    (hs : ∀ c ∈ s, Stays c ∧ c ≠ '.') {c : Char} (hc : c ∈ l.ascii) :
    c.toNat < 0x80 ∧ fold? c = some [c] ∧ c ≠ '.' := by
  rcases cases_of_read? h with ⟨hl, hascii, -⟩ | ⟨rfl, -, -⟩
  · rw [hl] at hc
    exact ⟨hascii c hc, (hs c hc).1 (hascii c hc), (hs c hc).2⟩
  · rcases List.mem_append.1 hc with hc | hc
    · exact fold?_of_mem_mark c hc
    · rcases Punycode.mem_encode hc with ⟨hmem, hascii⟩ | rfl | hdigit
      · exact ⟨hascii, (hs c hmem).1 hascii, (hs c hmem).2⟩
      · exact fold?_of_mem_mark '-' (by decide)
      · exact fold?_of_isDigit hdigit

/-- What was written in Punycode is read from it, if it is not too long. -/
theorem read?_mark_append_encode {s : List Char} (hsettled : isSettled s = true) {c : Char}
    (hc : c ∈ s) (hbeyond : 0x80 ≤ c.toNat) (hascii : ∀ d ∈ Punycode.encode s, d.toNat < 0x80) :
    Label.read? (mark ++ Punycode.encode s) =
      if isLegibleLabel (mark ++ Punycode.encode s) then some ⟨mark ++ Punycode.encode s, s⟩
      else none := by
  obtain ⟨d, hlast, hd⟩ := Punycode.exists_getLast?_encode hc hbeyond
  have hall : (mark ++ Punycode.encode s).all (·.toNat < 0x80) = true := by
    rw [List.all_append, Bool.and_eq_true]
    exact ⟨by decide, List.all_eq_true.2 fun x hx ↦ decide_eq_true (hascii x hx)⟩
  have hhyphen : (d == '-') = false := beq_eq_false_iff_ne.2 hd.ne_hyphen
  rw [Label.read?, hall, if_pos rfl, isLegibleLabel, strip?_append]
  dsimp only
  rw [hlast, Option.all_some, hhyphen, Bool.false_or, Punycode.decode?_encode]
  by_cases hlength : 2000 < (Punycode.encode s).length
  · rw [if_pos (decide_eq_true hlength), if_neg (by simpa using hlength)]
  · rw [if_neg (by simpa using hlength), if_pos (by simpa using hlength)]
    exact if_pos hsettled

/-- **A written label is read again**, exactly if it is not too long. -/
theorem read?_ascii {s : List Char} {l : Label} (h : Label.read? s = some l)
    (hs : ∀ c ∈ s, Stays c ∧ c ≠ '.') :
    Label.read? l.ascii = if isLegibleLabel l.ascii then some l else none := by
  rcases cases_of_read? h with ⟨hl, -, hlegible⟩ | ⟨rfl, hsettled, c, hc, hbeyond⟩
  · rw [hl, hlegible, if_pos rfl, h]
  · exact read?_mark_append_encode hsettled hc hbeyond fun d hd ↦
      (fold?_of_mem_ascii h hs (List.mem_append_right mark hd)).1

end Label

/-! ### Names -/

/-- Whether the labels of a name do not leave open which way they run. -/
def runsClearly (labels : List Label) : Bool :=
  !(labels.any (fun l ↦ runsRight l.full) && !labels.all fun l ↦ runsOneWay l.full)

/-- What is left of reading a name when its characters stand for others. -/
theorem ofText?_of_folded {s : List Char} {folded : List (List Char)}
    (h : s.mapM fold? = some folded) :
    ofText? s = ((pieces (· == '.') (composed folded.flatten)).mapM Label.read?).bind fun labels ↦
      if runsClearly labels then some (['.'].intercalate (labels.map Label.ascii)) else none := by
  rw [ofText?, h, Option.bind_eq_bind, Option.bind_some]
  refine congrArg _ (funext fun labels ↦ ?_)
  rw [runsClearly]
  cases labels.any (fun l ↦ runsRight l.full) && !labels.all fun l ↦ runsOneWay l.full <;> rfl

/-- What is left of reading a name when its characters stand for themselves. -/
theorem ofText?_of_composed {s : List Char} (h : ∀ c ∈ s, fold? c = some [c])
    (hcomposed : composed s = s) :
    ofText? s = ((pieces (· == '.') s).mapM Label.read?).bind fun labels ↦
      if runsClearly labels then some (['.'].intercalate (labels.map Label.ascii)) else none := by
  rw [ofText?_of_folded (mapM_fold? h), ← List.flatMap_def, List.flatMap_singleton', hcomposed]

theorem IsFolded.ofText?_eq {s : List Char} (h : IsFolded s) :
    ofText? s = ((pieces (· == '.') s).mapM Label.read?).bind fun labels ↦
      if runsClearly labels then some (['.'].intercalate (labels.map Label.ascii)) else none :=
  ofText?_of_composed (fun c hc ↦ (h c hc).2) h.composed_eq

/-- The labels of a name that has been read, and what they were read from. -/
theorem exists_labels_of_ofText? {s name : List Char} (h : ofText? s = some name) :
    ∃ parts labels, parts ≠ [] ∧ (∀ part ∈ parts, ∀ c ∈ part, Stays c ∧ c ≠ '.') ∧
      List.Forall₂ (fun part l ↦ Label.read? part = some l) parts labels ∧
      runsClearly labels = true ∧ name = ['.'].intercalate (labels.map Label.ascii) := by
  cases hfolded : s.mapM fold? with
  | none =>
    rw [ofText?, hfolded] at h
    cases h
  | some folded =>
    rw [ofText?_of_folded hfolded, Option.bind_eq_some_iff] at h
    obtain ⟨labels, hlabels, h⟩ := h
    split at h
    case isFalse => cases h
    case isTrue hclear =>
      refine ⟨_, labels, pieces_ne_nil _ _, fun part hpart c hc ↦ ?_, forall₂_of_mapM hlabels,
        hclear, (Option.some.inj h).symm⟩
      obtain ⟨hmem, hdot⟩ := of_mem_pieces hpart hc
      refine ⟨stays_of_mem_composed (fun d hd ↦ ?_) hmem, by simpa using hdot⟩
      -- each character stands for what one of the text stands for
      obtain ⟨cs, hcs, hd⟩ := List.mem_flatten.1 hd
      obtain ⟨e, -, he⟩ := exists_of_mem_mapM hfolded hcs
      exact isPlain_of_fold? he hd

/-- The written labels of a name are read again, exactly if none of them is too long. -/
theorem mapM_read?_ascii {parts : List (List Char)} {labels : List Label}
    (hparts : ∀ part ∈ parts, ∀ c ∈ part, Stays c ∧ c ≠ '.')
    (h : List.Forall₂ (fun part l ↦ Label.read? part = some l) parts labels) :
    (labels.map Label.ascii).mapM Label.read? =
      if (labels.map Label.ascii).all isLegibleLabel then some labels else none := by
  induction h with
  | nil => rfl
  | @cons part l parts labels hl _ ih =>
    rw [List.forall_mem_cons] at hparts
    have hread := Label.read?_ascii hl hparts.1
    rw [List.map_cons, List.all_cons]
    cases hlegible : isLegibleLabel l.ascii with
    | false =>
      rw [hlegible] at hread
      rw [List.mapM_cons, hread]
      rfl
    | true =>
      rw [hlegible] at hread
      rw [mapM_cons_of_eq hread, ih hparts.2, Bool.true_and]
      split <;> rfl

/-- The characters of the written labels of a name. -/
theorem fold?_of_mem_labels {parts : List (List Char)} {labels : List Label}
    (hparts : ∀ part ∈ parts, ∀ c ∈ part, Stays c ∧ c ≠ '.')
    (h : List.Forall₂ (fun part l ↦ Label.read? part = some l) parts labels) :
    ∀ w ∈ labels.map Label.ascii, ∀ c ∈ w, c.toNat < 0x80 ∧ fold? c = some [c] ∧ c ≠ '.' := by
  induction h with
  | nil => exact fun w hw ↦ absurd hw List.not_mem_nil
  | cons hl _ ih =>
    rw [List.forall_mem_cons] at hparts
    rw [List.map_cons, List.forall_mem_cons]
    exact ⟨fun c hc ↦ Label.fold?_of_mem_ascii hl hparts.1 hc, ih hparts.2⟩

/-- The characters of a name that has been read stand for themselves. -/
theorem isFolded_of_ofText? {s name : List Char} (h : ofText? s = some name) : IsFolded name := by
  obtain ⟨parts, labels, -, hparts, hlabels, -, rfl⟩ := exists_labels_of_ofText? h
  have hdot : '.'.toNat < 0x80 ∧ fold? '.' = some ['.'] := by decide
  refine forall_mem_intercalate (fun c hc ↦ List.mem_singleton.1 hc ▸ hdot) fun w hw c hc ↦ ?_
  obtain ⟨hascii, hfold, -⟩ := fold?_of_mem_labels hparts hlabels w hw c hc
  exact ⟨hascii, hfold⟩

/-- **A name that has been read is read again as itself**, exactly if it is legible. -/
theorem ofText?_of_ofText? {s name : List Char} (h : ofText? s = some name) :
    ofText? name = if isLegible name then some name else none := by
  have hfolded := isFolded_of_ofText? h
  obtain ⟨parts, labels, hne, hparts, hlabels, hclear, rfl⟩ := exists_labels_of_ofText? h
  have hpieces : pieces (· == '.') (['.'].intercalate (labels.map Label.ascii)) =
      labels.map Label.ascii := by
    refine pieces_intercalate (fun hnil ↦ hne ?_) fun w hw hdot ↦
      (fold?_of_mem_labels hparts hlabels w hw '.' hdot).2.2 rfl
    rw [List.map_eq_nil_iff.1 hnil] at hlabels
    exact List.forall₂_nil_right_iff.1 hlabels
  rw [hfolded.ofText?_eq, hpieces, mapM_read?_ascii hparts hlabels, isLegible, hpieces]
  split
  · rw [Option.bind_some, hclear, if_pos rfl]
  · rfl

/-- No ASCII character runs from right to left. -/
theorem runsRight_of_ascii {s : List Char} (h : ∀ c ∈ s, c.toNat < 0x80) : runsRight s = false := by
  have hall : ∀ n < 0x80, (direction (Char.ofNat n) == .right ||
      direction (Char.ofNat n) == .arabicDigit) = false := by
    decide +kernel
  rw [runsRight, List.any_eq_false]
  intro c hc
  rw [forall_ascii (P := fun c ↦ (direction c == .right || direction c == .arabicDigit) = false)
    hall (h c hc)]
  exact Bool.false_ne_true

/-- A name of labels in ASCII is read as it stands. -/
theorem ofText?_of_forall {s : List Char} (h : IsFolded s)
    (hmark : ∀ part ∈ pieces (· == '.') s, strip? mark part = none) : ofText? s = some s := by
  have hascii : ∀ part ∈ pieces (· == '.') s, ∀ c ∈ part, c.toNat < 0x80 := fun part hpart c hc ↦
    (h c (of_mem_pieces hpart hc).1).1
  have hlabels : (pieces (· == '.') s).mapM Label.read? =
      some ((pieces (· == '.') s).map fun part ↦ ⟨part, part⟩) := by
    generalize pieces (· == '.') s = parts at hmark hascii
    induction parts with
    | nil => rfl
    | cons part parts ih =>
      rw [List.forall_mem_cons] at hmark hascii
      have hpart : Label.read? part = some ⟨part, part⟩ := by
        rw [Label.read?, if_pos (List.all_eq_true.2 fun c hc ↦ decide_eq_true (hascii.1 c hc)),
          hmark.1]
      rw [mapM_cons_of_eq hpart, ih hmark.2 hascii.2]
      rfl
  have hclear : runsClearly ((pieces (· == '.') s).map fun part ↦ ⟨part, part⟩) = true := by
    rw [runsClearly, Bool.not_eq_true', Bool.and_eq_false_iff]
    refine .inl (List.any_eq_false.2 fun l hl ↦ ?_)
    obtain ⟨part, hpart, rfl⟩ := List.mem_map.1 hl
    rw [runsRight_of_ascii (hascii part hpart)]
    exact Bool.false_ne_true
  have hparts : ((pieces (· == '.') s).map fun part ↦ (⟨part, part⟩ : Label)).map Label.ascii =
      pieces (· == '.') s := by
    rw [List.map_map]
    exact List.map_id _
  rw [h.ofText?_eq, hlabels, Option.bind_some, hclear, if_pos rfl, hparts, intercalate_pieces]

/-- The name of a text is the name of what its triplets stand for. -/
theorem exists_of_read? {s name : List Char} (h : read? s = some name) :
    ∃ t, ofText? t = some name := by
  rw [read?, Option.bind_eq_bind, Option.bind_eq_some_iff] at h
  obtain ⟨t, -, ht⟩ := h
  exact ⟨t, ht⟩

/-- A text without triplets is read as it stands. -/
theorem read?_of_notMem {s : List Char} (h : '%' ∉ s) : read? s = ofText? s := by
  rw [read?, Percent.decode_of_notMem (Percent.mark_notMem_encode h), Utf8.decode?_encode]
  rfl

theorem isFolded_of_read? {s name : List Char} (h : read? s = some name) : IsFolded name := by
  obtain ⟨t, ht⟩ := exists_of_read? h
  exact isFolded_of_ofText? ht

/-- **A name that has been read is read again as itself**, exactly if it is legible. -/
theorem read?_of_read? {s name : List Char} (h : read? s = some name) :
    read? name = if isLegible name then some name else none := by
  obtain ⟨t, ht⟩ := exists_of_read? h
  rw [read?_of_notMem (isFolded_of_ofText? ht).notMem, ofText?_of_ofText? ht]

end Unscramble.Url.Domain

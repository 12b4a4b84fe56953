import Unscramble.Proofs.Url.Host

/-!
# Labels of ideographs

No table of a domain name says anything about the ideographs of the supplementary plane: they are
not replaced or refused, have no parts, are no marks and run from left to right. So a label of up to
a thousand of them is read as it stands, and is written in Punycode.

It can be written with more than two thousand characters, since it takes three digits for each
ideograph if they lie far apart in the order of code points. What has been read is then not read
again.

## Main definitions

* `IsIdeograph`: an ideograph of the supplementary plane.
* `farApart`: a label of ideographs that lie far apart.

## Main statements

* `read?_of_isIdeograph`: a label of ideographs is read and written in Punycode.
* `isLegible_of_isIdeograph`: it is not read again if its code points lie far apart.
-/

namespace Unscramble.Url.Domain

open Unscramble.Text Unscramble.Text.Normal

/-! ### Tables -/

/-- An ideograph of the supplementary plane. -/
def IsIdeograph (c : Char) : Prop :=
  0x20000 ≤ c.toNat ∧ c.toNat ≤ 0x2A6DF

/-- Whether there is no ideograph from one code point to another. -/
def isOutside (first last : ℕ) : Bool :=
  Nat.blt last 0x20000 || Nat.blt 0x2A6DF first

section Tables

variable {c : Char}

theorem IsIdeograph.lt_or_lt (h : IsIdeograph c) {first last : ℕ}
    (houtside : isOutside first last = true) : c.toNat < first ∨ last < c.toNat := by
  rw [isOutside, Bool.or_eq_true, Nat.blt_eq, Nat.blt_eq] at houtside
  have := h.1
  have := h.2
  omega

theorem IsIdeograph.has_eq_false (h : IsIdeograph c) {ranges : Ranges}
    (houtside : (ranges.toList.all fun range ↦ isOutside range.1 range.2) = true) :
    ranges.has c = false :=
  Ranges.has_eq_false fun range hrange ↦ h.lt_or_lt (List.all_eq_true.1 houtside range hrange)

theorem replacement?_of_isIdeograph (h : IsIdeograph c) : replacement? c = none := by
  have hruns : (replacedRuns.toList.all fun row ↦
      Nat.blt 0 row.2.1 && isOutside row.1 (lastOf row)) = true := by
    decide +kernel
  have hexpansions : (expansions.toList.all fun row ↦ isOutside row.1 row.1) = true := by
    decide +kernel
  have hexpansion : replacement?.expansion? c = none := by
    unfold replacement?.expansion?
    split
    · next n s hrow =>
      have hne := h.lt_or_lt (List.all_eq_true.1 hexpansions _ (of_lastRow hrow).1)
      rw [if_neg (by dsimp only at hne; omega)]
    · rfl
  unfold replacement?
  split
  · next first count step target hrow =>
    obtain ⟨hmem, hle⟩ := of_lastRow hrow
    have hrun := List.all_eq_true.1 hruns _ hmem
    rw [Bool.and_eq_true, Nat.blt_eq] at hrun
    dsimp only at hrun ⊢
    rw [if_neg, hexpansion]
    rintro ⟨hplace, hcount⟩
    have hlast : step * ((c.toNat - first) / step) ≤ step * (count - 1) :=
      Nat.mul_le_mul_left step (by omega)
    rcases h.lt_or_lt hrun.2 with hlt | hlt
    · dsimp only at hle
      omega
    · rw [lastOf] at hlt
      dsimp only at hlt
      omega
  · exact hexpansion

/-- An ideograph stands for itself. -/
theorem fold?_of_isIdeograph (h : IsIdeograph c) : fold? c = some [c] := by
  have hrefused : refusedRanges.has c = false := h.has_eq_false (by decide +kernel)
  have hignored : ignoredRanges.has c = false := h.has_eq_false (by decide +kernel)
  have hlow := h.1
  rw [fold?, if_neg (by omega), hrefused, hignored, replacement?_of_isIdeograph h]
  rfl

/-- An ideograph does not run from right to left. -/
theorem direction_of_isIdeograph (h : IsIdeograph c) :
    (direction c == .right || direction c == .arabicDigit) = false := by
  have hright : rightRanges.has c = false := h.has_eq_false (by decide +kernel)
  have harabic : arabicRanges.has c = false := h.has_eq_false (by decide +kernel)
  have hdigit : arabicDigitRanges.has c = false := h.has_eq_false (by decide +kernel)
  rw [direction, hright, harabic, hdigit]
  cases attachedRanges.has c <;> cases digitRanges.has c <;> cases neutralRanges.has c <;> rfl

/-! ### Composed form -/

/-- A character that has no parts, and is not joined to what stands before it. -/
structure IsAlone (c : Char) : Prop where
  takeApart_eq : takeApart 4 c = [c]
  combiningClass_eq : combiningClass c = 0
  join?_eq : ∀ b, join? b c = none

/-- No ideograph has a row of its own, or is the second part of another character. -/
theorem isOutside_decompositions : (decompositions.toList.all fun row ↦
    isOutside row.1 row.1 && isOutside row.2.2 row.2.2) = true := by
  decide +kernel

theorem IsIdeograph.ne_of_mem (h : IsIdeograph c) {row : ℕ × ℕ × ℕ}
    (hrow : row ∈ decompositions.toList) : row.1 ≠ c.toNat ∧ row.2.2 ≠ c.toNat := by
  have houtside := List.all_eq_true.1 isOutside_decompositions row hrow
  rw [Bool.and_eq_true] at houtside
  have hwhole := h.lt_or_lt houtside.1
  have hsecond := h.lt_or_lt houtside.2
  omega

theorem takeApart_of_isIdeograph (h : IsIdeograph c) : takeApart 4 c = [c] := by
  have hbase : syllableBase = 0xAC00 := rfl
  have hlow := h.1
  have hsyllable : syllableParts? c.toNat = none := by
    rw [syllableParts?, if_neg (by omega)]
  have hparts : parts? c = none := by
    rw [Option.eq_none_iff_forall_ne_some]
    rintro ⟨x, y⟩ hxy
    exact (h.ne_of_mem (mem_of_parts? hxy)).1 rfl
  rw [takeApart_succ, hsyllable]
  dsimp only
  rw [hparts]

theorem combiningClass_of_isIdeograph (h : IsIdeograph c) : combiningClass c = 0 := by
  have hruns : (combiningRuns.toList.all fun row ↦ isOutside row.1 row.2.1) = true := by
    decide +kernel
  unfold combiningClass
  split
  · next first last k hrow =>
    obtain ⟨hmem, hle⟩ := of_lastRow hrow
    rcases h.lt_or_lt (List.all_eq_true.1 hruns _ hmem) with hlt | hlt
    · exact absurd hle (Nat.not_le.2 hlt)
    · exact if_neg (Nat.not_le.2 hlt)
  · rfl

theorem join?_of_isIdeograph (h : IsIdeograph c) (b : Char) : join? b c = none := by
  have hbase : syllableBase = 0xAC00 := rfl
  have hlow := h.1
  rw [Option.eq_none_iff_forall_ne_some]
  intro d hd
  rcases cases_of_join? hd with ⟨n, hn, -⟩ | ⟨n, hrow, -⟩
  · rw [syllable?, if_neg (by omega), if_neg (by omega)] at hn
    cases hn
  · exact (h.ne_of_mem hrow).2 rfl

theorem isAlone_of_isIdeograph (h : IsIdeograph c) : IsAlone c where
  takeApart_eq := takeApart_of_isIdeograph h
  combiningClass_eq := combiningClass_of_isIdeograph h
  join?_eq := join?_of_isIdeograph h

end Tables

section Alone

variable {s : List Char}

theorem decompose_of_isAlone (h : ∀ c ∈ s, IsAlone c) : decompose s = s.map fun c ↦ (c, 0) := by
  have hapart : s.flatMap (takeApart 4) = s := by
    rw [List.flatMap_congr fun c hc ↦ (h c hc).takeApart_eq, List.flatMap_singleton']
  rw [decompose, hapart]
  clear hapart
  induction s with
  | nil => rfl
  | cons c s ih =>
    rw [List.forall_mem_cons] at h
    rw [List.map_cons, sortMarks, h.1.combiningClass_eq, if_pos rfl, ih h.2, List.map_cons]

theorem composeFrom_of_isAlone (h : ∀ c ∈ s, IsAlone c) (base : Char) :
    composeFrom base [] (s.map fun c ↦ (c, 0)) = base :: s := by
  induction s generalizing base with
  | nil => rfl
  | cons c s ih =>
    rw [List.forall_mem_cons] at h
    rw [List.map_cons, composeFrom_cons, isFree, if_pos rfl, h.1.join?_eq, ← ih h.2 c]
    rfl

/-- A text of characters that are neither taken apart nor joined is in composed form. -/
theorem composed_of_isAlone (h : ∀ c ∈ s, IsAlone c) : composed s = s := by
  rw [composed]
  split
  · rfl
  · rw [decompose_of_isAlone h]
    cases s with
    | nil => rfl
    | cons c s => exact composeFrom_of_isAlone (List.forall_mem_cons.1 h).2 c

end Alone

/-! ### Labels -/

section Labels

variable {s : List Char}

theorem joinersFit_of_isIdeograph (h : ∀ c ∈ s, IsIdeograph c) (before : List Char) :
    joinersFit before s = true := by
  induction s generalizing before with
  | nil => rfl
  | cons c s ih =>
    rw [List.forall_mem_cons] at h
    have hne : c ≠ apart ∧ c ≠ together := by
      refine ⟨?_, ?_⟩ <;> rintro rfl <;> exact absurd h.1.1 (by decide)
    rw [joinersFit, if_neg hne.1, if_neg hne.2, ih h.2, Bool.true_and]

theorem isSettled_of_isIdeograph (h : ∀ c ∈ s, IsIdeograph c) : isSettled s = true := by
  have hfold : s.all (fun c ↦ fold? c == some [c]) = true :=
    List.all_eq_true.2 fun c hc ↦ beq_iff_eq.2 (fold?_of_isIdeograph (h c hc))
  have hhead : s.head?.any markRanges.has = false := by
    cases s with
    | nil => rfl
    | cons c s =>
      have hmark : markRanges.has c = false :=
        (h c List.mem_cons_self).has_eq_false (by decide +kernel)
      rw [List.head?_cons, Option.any_some, hmark]
  rw [isSettled, hfold, composed_of_isAlone fun c hc ↦ isAlone_of_isIdeograph (h c hc), hhead,
    joinersFit_of_isIdeograph h, beq_self_eq_true]
  rfl

/-- A label of ideographs is read as it stands, and written in Punycode. -/
theorem Label.read?_of_isIdeograph (h : ∀ c ∈ s, IsIdeograph c) (hne : s ≠ [])
    (hlength : s.length ≤ 1000) : Label.read? s = some ⟨mark ++ Punycode.encode s, s⟩ := by
  obtain ⟨c, r, rfl⟩ := List.exists_cons_of_ne_nil hne
  have hlow := (h c List.mem_cons_self).1
  have hascii : (c :: r).all (·.toNat < 0x80) = false := by
    rw [List.all_cons, decide_eq_false (by omega), Bool.false_and]
  have hmark : strip? mark (c :: r) = none := by
    have hne : ¬ 'x' = c := by
      rintro rfl
      exact absurd hlow (by decide)
    rw [mark, strip?, if_neg hne]
  rw [Label.read?, hascii, if_neg Bool.false_ne_true, isSettled_of_isIdeograph h, hmark,
    decide_eq_true hlength]
  rfl

/-- **A name of ideographs is read** as one label. -/
theorem read?_of_isIdeograph (h : ∀ c ∈ s, IsIdeograph c) (hne : s ≠ [])
    (hlength : s.length ≤ 1000) : read? s = some (mark ++ Punycode.encode s) := by
  have hnotMem {d : Char} (hd : d.toNat < 0x80) : d ∉ s := fun hm ↦ by
    have := (h d hm).1
    omega
  have hleft : runsRight s = false :=
    List.any_eq_false.2 fun c hc ↦ by
      rw [direction_of_isIdeograph (h c hc)]
      exact Bool.false_ne_true
  have hlabels : [s].mapM Label.read? = some [⟨mark ++ Punycode.encode s, s⟩] := by
    rw [mapM_cons_of_eq (Label.read?_of_isIdeograph h hne hlength)]
    rfl
  have hclear : runsClearly [⟨mark ++ Punycode.encode s, s⟩] = true := by
    rw [runsClearly, List.any_cons, hleft]
    rfl
  rw [read?_of_notMem (hnotMem (by decide)),
    ofText?_of_composed (fun c hc ↦ fold?_of_isIdeograph (h c hc))
      (composed_of_isAlone fun c hc ↦ isAlone_of_isIdeograph (h c hc)),
    pieces_of_notMem (hnotMem (by decide)), hlabels, Option.bind_some, hclear, if_pos rfl,
    List.map_singleton, List.intercalate_singleton]

/-- A name of one label in Punycode has no full stop. -/
theorem dot_notMem_of_isIdeograph (h : ∀ c ∈ s, IsIdeograph c) :
    '.' ∉ mark ++ Punycode.encode s := by
  intro hm
  rcases List.mem_append.1 hm with hm | hm
  · exact (fold?_of_mem_mark '.' hm).2.2 rfl
  · rcases Punycode.mem_encode hm with ⟨hmem, hascii⟩ | hhyphen | hdigit
    · have := (h '.' hmem).1
      omega
    · exact absurd hhyphen (by decide)
    · exact (fold?_of_isDigit hdigit).2.2 rfl

/-- It looks like no address, as it begins with a letter. -/
theorem looksLike_of_isIdeograph (h : ∀ c ∈ s, IsIdeograph c) :
    Ipv4.looksLike (mark ++ Punycode.encode s) = false := by
  have hparts : Ipv4.parts (mark ++ Punycode.encode s) = [mark ++ Punycode.encode s] := by
    rw [Ipv4.parts, pieces_of_notMem (dot_notMem_of_isIdeograph h)]
    rfl
  rw [Ipv4.looksLike, hparts, List.getLast?_singleton]
  rfl

/-- A host of ideographs is a name. -/
theorem ofDomain_of_isIdeograph (h : ∀ c ∈ s, IsIdeograph c) (hne : s ≠ [])
    (hlength : s.length ≤ 1000) :
    Host.ofDomain s = .ok (.name (mark ++ Punycode.encode s)) := by
  have hbracket : bracketed? s = none := Host.bracketed?_of_notMem fun hm ↦ by
    have := (h '[' hm).1
    revert this
    decide
  rw [Host.ofDomain, hbracket, read?_of_isIdeograph h hne hlength]
  dsimp only
  rw [mark, List.cons_append]
  dsimp only
  rw [← List.cons_append, ← mark, looksLike_of_isIdeograph h]
  rfl

/-- **It is not read again** if the code points of its ideographs lie far apart: all but fifteen of
them take three digits. -/
theorem isLegible_of_isIdeograph (h : ∀ c ∈ s, IsIdeograph c) (hlength : 682 ≤ s.length)
    (hapart : (s.map Char.toNat).Pairwise fun a b ↦ a + 59 < b) :
    isLegible (mark ++ Punycode.encode s) = false := by
  have hlong : 3 * (s.length - 15) ≤ (Punycode.encode s).length :=
    Punycode.le_length_encode (by decide) (fun c hc ↦ by have := (h c hc).1; omega) hapart
  rw [isLegible, pieces_of_notMem (dot_notMem_of_isIdeograph h), List.all_cons, isLegibleLabel,
    strip?_append]
  dsimp only
  rw [decide_eq_false (by omega), Bool.false_and]

/-! ### A long label -/

/-- Ideographs that lie far apart. -/
def farApart : List Char :=
  (List.range 700).map fun i ↦ Char.ofNat (0x20000 + 60 * i)

theorem toNat_farApart : farApart.map Char.toNat = (List.range 700).map (0x20000 + 60 * ·) := by
  rw [farApart, List.map_map]
  refine List.map_congr_left fun i hi ↦ ?_
  have := List.mem_range.1 hi
  rw [Function.comp_apply, Utf8.toNat_ofNat (.inr ⟨by omega, by omega⟩)]

theorem isIdeograph_of_mem_farApart {c : Char} (h : c ∈ farApart) : IsIdeograph c := by
  have hmem := List.mem_map_of_mem (f := Char.toNat) h
  rw [toNat_farApart] at hmem
  obtain ⟨i, hi, hc⟩ := List.mem_map.1 hmem
  have := List.mem_range.1 hi
  exact ⟨by omega, by omega⟩

theorem length_farApart : farApart.length = 700 := by
  rw [farApart, List.length_map, List.length_range]

theorem isLegible_farApart : isLegible (mark ++ Punycode.encode farApart) = false := by
  refine isLegible_of_isIdeograph (fun c hc ↦ isIdeograph_of_mem_farApart hc) ?_ ?_
  · rw [length_farApart]
    decide
  · rw [toNat_farApart, List.pairwise_map]
    exact List.pairwise_lt_range.imp fun h ↦ by omega

end Labels

end Unscramble.Url.Domain

import Unscramble.Proofs.Url.Domain.Plain

/-!
# ASCII characters of a composed name

Plain characters have no capital letter in them, so taking them apart and putting them together
again brings up no ASCII character that would have been replaced or refused, with two exceptions:
`≮` and `≯` have a `<` or a `>` in them. But these are always put together again, since nothing
comes before the stroke in the order of marks.

## Main definitions

* `Tidy`: a text taken apart in which every ASCII character stays, or has a stroke behind it.

## Main statements

* `stays_of_mem_composed`: the ASCII characters of a composed name stand for themselves.
-/

namespace Unscramble.Url.Domain

open Unscramble.Text Unscramble.Text.Normal

/-! ### Characters taken apart -/

/-- What is to be known of a row of the table of parts: neither the whole nor a second part is
ASCII, and a first part is plain if the whole is. -/
def rowFits : ℕ × ℕ × ℕ → Bool
  | (n, a, b) =>
    let first := Char.ofNat a
    Nat.ble 0x80 (Char.ofNat n).toNat && (b == 0 || Nat.ble 0x80 (Char.ofNat b).toNat) &&
      (isCapital n || n == '≮'.toNat || n == '≯'.toNat ||
        !isCapital first.toNat && !isStruck first &&
          (Nat.ble 0x80 first.toNat || !isForbidden first))

theorem rowFits_of_mem {row : ℕ × ℕ × ℕ} (h : row ∈ decompositions.toList) :
    rowFits row = true := by
  have hall : decompositions.toList.all rowFits = true := by decide +kernel
  exact List.all_eq_true.1 hall row h

theorem mem_of_parts? {c : Char} {a b : ℕ} (h : parts? c = some (a, b)) :
    (c.toNat, a, b) ∈ decompositions.toList := by
  unfold parts? at h
  split at h
  · next n a' b' hrow =>
    split at h
    · next hn =>
      obtain ⟨rfl, rfl⟩ := Prod.mk.inj (Option.some.inj h)
      exact hn ▸ (of_lastRow hrow).1
    · cases h
  · cases h

/-- The parts of a Korean syllable are no ASCII characters. -/
theorem le_of_mem_syllableParts? {n : ℕ} {cs : List Char} (h : syllableParts? n = some cs) :
    ∀ x ∈ cs, 0x80 ≤ x.toNat := by
  rw [syllableParts?] at h
  split at h
  case isFalse => cases h
  case isTrue hn =>
    have hvalid {m : ℕ} (hm : m < 0xD800) (hle : 0x80 ≤ m) : 0x80 ≤ (Char.ofNat m).toNat := by
      rw [Utf8.toNat_ofNat (.inl hm)]
      exact hle
    have hi : n - syllableBase < 11172 := by omega
    obtain rfl := Option.some.inj h
    intro x hx
    generalize n - syllableBase = i at hi hx
    have hall : x ∈ [Char.ofNat (0x1100 + i / 588), Char.ofNat (0x1161 + i % 588 / 28),
        Char.ofNat (0x11A7 + i % 28)] := by
      split at hx
      · exact List.mem_append_left [Char.ofNat (0x11A7 + i % 28)] hx
      · exact hx
    simp only [List.mem_cons, List.not_mem_nil, or_false] at hall
    rcases hall with rfl | rfl | rfl
    · exact hvalid (by omega) (by omega)
    · exact hvalid (by omega) (by omega)
    · exact hvalid (by omega) (by omega)

theorem struck_mem_decompositions :
    (0x226E, 0x3C, 0x338) ∈ decompositions.toList ∧
      (0x226F, 0x3E, 0x338) ∈ decompositions.toList := by
  decide +kernel

/-- What has a `<` or a `>` in it is always put together again. -/
theorem not_neverComposed_of_mem {row : ℕ × ℕ × ℕ} (h : row ∈ decompositions.toList)
    (hfirst : row.2.1 = '<'.toNat ∨ row.2.1 = '>'.toNat) :
    neverComposed.contains row.1 = false := by
  have hall : decompositions.toList.all (fun row ↦
      !(row.2.1 == '<'.toNat || row.2.1 == '>'.toNat) || !neverComposed.contains row.1) = true := by
    decide +kernel
  have := List.all_eq_true.1 hall row h
  rcases hfirst with hfirst | hfirst <;> simpa [hfirst] using this

-- the tables are long, and from here on nothing is to look into them
attribute [local irreducible] decompositions neverComposed

theorem takeApart_succ (fuel : ℕ) (c : Char) :
    takeApart (fuel + 1) c =
      match syllableParts? c.toNat with
      | some cs => cs
      | none =>
        match parts? c with
        | none => [c]
        | some (a, 0) => takeApart fuel (Char.ofNat a)
        | some (a, b) => takeApart fuel (Char.ofNat a) ++ [Char.ofNat b] :=
  rfl

/-- The first part of a plain character with no `<` or `>` in it is such a character again, and its
second part is no ASCII character. -/
theorem isPlain_of_parts? {c : Char} {a b : ℕ} (hc : IsPlain c) (hstruck : isStruck c = false)
    (h : parts? c = some (a, b)) :
    IsPlain (Char.ofNat a) ∧ isStruck (Char.ofNat a) = false ∧
      (b ≠ 0 → 0x80 ≤ (Char.ofNat b).toNat) := by
  have hfits := rowFits_of_mem (mem_of_parts? h)
  have hne : ∀ d : Char, isStruck d = true → c.toNat ≠ d.toNat := by
    intro d hd heq
    rw [Char.toNat_inj.1 heq, hd] at hstruck
    cases hstruck
  simp only [rowFits, Bool.and_eq_true, Bool.or_eq_true, Nat.ble_eq, beq_iff_eq, hc.isCapital_eq,
    Bool.false_eq_true, hne '≮' (by decide), hne '≯' (by decide), false_or,
    Bool.not_eq_true'] at hfits
  obtain ⟨⟨-, hb⟩, ⟨hcapital, hstruck⟩, hforbidden⟩ := hfits
  exact ⟨⟨hforbidden.elim isForbidden_of_le id, hcapital⟩, hstruck, hb.resolve_left⟩

/-- A plain character with no `<` or `>` in it has only parts that stay as they are. -/
theorem stays_of_mem_takeApart {fuel : ℕ} {c x : Char} (hc : IsPlain c)
    (hstruck : isStruck c = false) (hx : x ∈ takeApart fuel c) : Stays x := by
  induction fuel generalizing c with
  | zero =>
    rw [List.mem_singleton.1 hx]
    exact hc.stays
  | succ fuel ih =>
    rw [takeApart_succ] at hx
    split at hx
    · next cs hparts => exact stays_of_le (le_of_mem_syllableParts? hparts x hx)
    · split at hx
      · rw [List.mem_singleton.1 hx]
        exact hc.stays
      · next a hparts =>
        obtain ⟨ha, hastruck, -⟩ := isPlain_of_parts? hc hstruck hparts
        exact ih ha hastruck hx
      · next a b hb hparts =>
        obtain ⟨ha, hastruck, hle⟩ := isPlain_of_parts? hc hstruck hparts
        rcases List.mem_append.1 hx with hx | hx
        · exact ih ha hastruck hx
        · rw [List.mem_singleton.1 hx]
          exact stays_of_le (hle fun h ↦ hb h)

/-! ### Texts taken apart -/

/-- The mark that strikes a character out. -/
def stroke : Char := '\u0338'

/-- The characters that are refused, but can be struck out. -/
def isAngle (c : Char) : Bool :=
  c == '<' || c == '>'

/-- A text taken apart in which every ASCII character stays as it is, or is struck out at once. -/
inductive Tidy : List (Char × ℕ) → Prop
  | nil : Tidy []
  | stays {c : Char} {k : ℕ} {r : List (Char × ℕ)} (hc : Stays c) (hr : Tidy r) : Tidy ((c, k) :: r)
  | struck {c : Char} {r : List (Char × ℕ)} (hc : isAngle c = true) (hr : Tidy r) :
    Tidy ((c, 0) :: (stroke, 1) :: r)

namespace Tidy

variable {l r : List (Char × ℕ)}

theorem append (hl : Tidy l) (hr : Tidy r) : Tidy (l ++ r) := by
  induction hl with
  | nil => exact hr
  | stays hc _ ih => exact .stays hc ih
  | struck hc _ ih => exact .struck hc ih

theorem of_forall_stays {s : List Char} (h : ∀ c ∈ s, Stays c) (k : Char → ℕ) :
    Tidy (s.map fun c ↦ (c, k c)) := by
  induction s with
  | nil => exact .nil
  | cons c s ih =>
    exact .stays (h c List.mem_cons_self) (ih fun x hx ↦ h x (List.mem_cons_of_mem c hx))

/-- A mark is put in behind a letter and its stroke, if it is not put in before both. -/
theorem insertMark (h : Tidy l) {c : Char} (hc : Stays c) (k : ℕ) :
    Tidy (Normal.insertMark c k l) := by
  induction h with
  | nil => exact .stays hc .nil
  | stays hd hr ih =>
    rw [Normal.insertMark]
    split
    · exact .stays hc (.stays hd hr)
    · exact .stays hd ih
  | struck hd hr _ =>
    rw [Normal.insertMark, if_pos (Or.inl rfl)]
    exact .stays hc (.struck hd hr)

/-- Nothing comes before the stroke in the order of marks. -/
theorem insertMark_stroke (l : List (Char × ℕ)) :
    Normal.insertMark stroke 1 l = (stroke, 1) :: l := by
  rcases l with - | ⟨⟨d, j⟩, l⟩
  · rfl
  · rw [Normal.insertMark, if_pos (by omega)]

theorem sortMarks (h : Tidy l) : Tidy (Normal.sortMarks l) := by
  induction h with
  | nil => exact .nil
  | stays hc _ ih =>
    rw [Normal.sortMarks]
    split
    · exact .stays hc ih
    · exact ih.insertMark hc _
  | struck hc _ ih =>
    rw [Normal.sortMarks, if_pos rfl, Normal.sortMarks, if_neg Nat.one_ne_zero, insertMark_stroke]
    exact .struck hc ih

end Tidy

theorem tidy_takeApart {c : Char} (hc : IsPlain c) :
    Tidy ((takeApart 4 c).map fun x ↦ (x, combiningClass x)) := by
  cases hstruck : isStruck c with
  | false => exact .of_forall_stays (fun x hx ↦ stays_of_mem_takeApart hc hstruck hx) _
  | true =>
    rw [isStruck, Bool.or_eq_true, beq_iff_eq, beq_iff_eq] at hstruck
    rcases hstruck with rfl | rfl
    · have happart : (takeApart 4 '≮').map (fun x ↦ (x, combiningClass x)) =
          [('<', 0), (stroke, 1)] := by decide +kernel
      rw [happart]
      exact .struck rfl .nil
    · have happart : (takeApart 4 '≯').map (fun x ↦ (x, combiningClass x)) =
          [('>', 0), (stroke, 1)] := by decide +kernel
      rw [happart]
      exact .struck rfl .nil

theorem tidy_decompose {s : List Char} (h : ∀ c ∈ s, IsPlain c) : Tidy (decompose s) := by
  refine Tidy.sortMarks ?_
  induction s with
  | nil => exact .nil
  | cons c s ih =>
    rw [List.flatMap_cons, List.map_append]
    exact (tidy_takeApart (h c List.mem_cons_self)).append
      (ih fun x hx ↦ h x (List.mem_cons_of_mem c hx))

/-! ### Putting together -/

theorem le_of_syllable? {a b n : ℕ} (h : syllable? a b = some n) : 0x80 ≤ n ∧ n < 0xD800 := by
  have hbase : syllableBase = 0xAC00 := rfl
  rw [syllable?] at h
  split at h
  · obtain rfl := Option.some.inj h
    omega
  · split at h
    · obtain rfl := Option.some.inj h
      omega
    · cases h

/-- Two characters make up a Korean syllable, or the character of a row. -/
theorem cases_of_join? {a b d : Char} (h : join? a b = some d) :
    (∃ n, syllable? a.toNat b.toNat = some n ∧ d = Char.ofNat n) ∨
      ∃ n, (n, a.toNat, b.toNat) ∈ decompositions.toList ∧ d = Char.ofNat n := by
  unfold join? at h
  split at h
  · next n hn => exact .inl ⟨n, hn, (Option.some.inj h).symm⟩
  · split at h
    · next n p q hrow =>
      have hpair := Array.find?_some (p := fun row : ℕ × ℕ × ℕ ↦
        row.2.2 == b.toNat && row.2.1 == a.toNat) hrow
      rw [Bool.and_eq_true, beq_iff_eq, beq_iff_eq] at hpair
      obtain ⟨rfl, rfl⟩ := hpair
      split at h
      · cases h
      · exact .inr ⟨n, Array.mem_toList_iff.2 (Array.mem_of_find?_eq_some hrow),
          (Option.some.inj h).symm⟩
    · cases h

/-- What two characters make up is no ASCII character. -/
theorem stays_of_join? {a b d : Char} (h : join? a b = some d) : Stays d := by
  refine stays_of_le ?_
  rcases cases_of_join? h with ⟨n, hn, rfl⟩ | ⟨n, hrow, rfl⟩
  · obtain ⟨hle, hlt⟩ := le_of_syllable? hn
    rw [Utf8.toNat_ofNat (.inl hlt)]
    exact hle
  · have hfits := rowFits_of_mem hrow
    simp only [rowFits, Bool.and_eq_true, Nat.ble_eq] at hfits
    exact hfits.1.1

/-- Whether nothing keeps a character of class `k` from the base. -/
def isFree (k : ℕ) : (between : List (Char × ℕ)) → Bool
  | [] => true
  | (_, j) :: _ => j < k

theorem composeFrom_cons (base c : Char) (k : ℕ) (between r : List (Char × ℕ)) :
    composeFrom base between ((c, k) :: r) =
      match if isFree k between then join? base c else none with
      | some d => composeFrom d between r
      | none =>
        if k = 0 then base :: between.reverse.map (·.1) ++ composeFrom c [] r
        else composeFrom base ((c, k) :: between) r :=
  rfl

/-- Whatever is in front of it, the rest of a text is put together to characters that stay. -/
def Settles (r : List (Char × ℕ)) : Prop :=
  ∀ base between, Stays base → (∀ p ∈ between, Stays p.1) →
    ∀ x ∈ composeFrom base between r, Stays x

theorem stays_of_mem_front {base x : Char} {between : List (Char × ℕ)} (hbase : Stays base)
    (hbetween : ∀ p ∈ between, Stays p.1) (hx : x ∈ base :: between.reverse.map (·.1)) :
    Stays x := by
  rcases List.mem_cons.1 hx with rfl | hx
  · exact hbase
  · obtain ⟨p, hp, rfl⟩ := List.mem_map.1 hx
    exact hbetween p (List.mem_reverse.1 hp)

theorem settles_nil : Settles [] :=
  fun _ _ hbase hbetween _ hx ↦ stays_of_mem_front hbase hbetween hx

/-- Putting together goes on behind a character in one of three ways: it joins the base, it is the
next base, or it stays in between. -/
theorem Settles.cons_of_next {c : Char} {k : ℕ} {r : List (Char × ℕ)} (hr : Settles r)
    (hnext : k = 0 → ∀ x ∈ composeFrom c [] r, Stays x) (hmark : k ≠ 0 → Stays c) :
    Settles ((c, k) :: r) := by
  intro base between hbase hbetween x hx
  rw [composeFrom_cons] at hx
  cases hjoin : if isFree k between then join? base c else none with
  | some d =>
    rw [hjoin] at hx
    have hd : join? base c = some d := by
      split at hjoin
      · exact hjoin
      · cases hjoin
    exact hr d between (stays_of_join? hd) hbetween x hx
  | none =>
    rw [hjoin] at hx
    dsimp only at hx
    split at hx
    · next hk =>
      rcases List.mem_append.1 hx with hx | hx
      · exact stays_of_mem_front hbase hbetween hx
      · exact hnext hk x hx
    · next hk =>
      refine hr base _ hbase (fun p hp ↦ ?_) x hx
      rcases List.mem_cons.1 hp with rfl | hp
      · exact hmark hk
      · exact hbetween p hp

theorem Settles.cons {c : Char} {k : ℕ} {r : List (Char × ℕ)} (hr : Settles r) (hc : Stays c) :
    Settles ((c, k) :: r) :=
  hr.cons_of_next (fun _ ↦ hr c [] hc fun _ hp ↦ absurd hp List.not_mem_nil) fun _ ↦ hc

/-- The parts of a row are put together again, if that is not excluded for their rows. -/
theorem exists_join? {a b : Char} {n : ℕ} (hb : b.toNat ≠ 0)
    (hmem : (n, a.toNat, b.toNat) ∈ decompositions.toList)
    (hcomposed : ∀ row ∈ decompositions.toList, row.2.1 = a.toNat →
      neverComposed.contains row.1 = false) : ∃ d, join? a b = some d := by
  cases hjoin : join? a b with
  | some d => exact ⟨d, rfl⟩
  | none =>
    unfold join? at hjoin
    split at hjoin
    · cases hjoin
    · split at hjoin
      · next n p q hfind =>
        split at hjoin
        · next hcond =>
          have hpair := Array.find?_some (p := fun row : ℕ × ℕ × ℕ ↦
            row.2.2 == b.toNat && row.2.1 == a.toNat) hfind
          rw [Bool.and_eq_true, beq_iff_eq, beq_iff_eq] at hpair
          have hnever := hcomposed _
            (Array.mem_toList_iff.2 (Array.mem_of_find?_eq_some hfind)) hpair.2
          rcases hcond with hcond | hcond
          · exact absurd hcond hb
          · rw [hnever] at hcond
            cases hcond
        · cases hjoin
      · next hfind =>
        have := Array.find?_eq_none.1 hfind _ (Array.mem_toList_iff.1 hmem)
        simp at this

theorem exists_join?_stroke {c : Char} (hc : isAngle c = true) :
    ∃ d, join? c stroke = some d := by
  rw [isAngle, Bool.or_eq_true, beq_iff_eq, beq_iff_eq] at hc
  rcases hc with rfl | rfl
  · exact exists_join? (by decide) struck_mem_decompositions.1 fun row hrow hfirst ↦
      not_neverComposed_of_mem hrow (.inl hfirst)
  · exact exists_join? (by decide) struck_mem_decompositions.2 fun row hrow hfirst ↦
      not_neverComposed_of_mem hrow (.inr hfirst)

/-- A character that is struck out is put together with its stroke. -/
theorem Settles.composeFrom_struck {c x : Char} {r : List (Char × ℕ)} (hr : Settles r)
    (hc : isAngle c = true) (hx : x ∈ composeFrom c [] ((stroke, 1) :: r)) : Stays x := by
  obtain ⟨d, hd⟩ := exists_join?_stroke hc
  rw [composeFrom_cons, isFree, if_pos rfl, hd] at hx
  exact hr d [] (stays_of_join? hd) (fun _ hp ↦ absurd hp List.not_mem_nil) x hx

theorem Tidy.settles {l : List (Char × ℕ)} (h : Tidy l) : Settles l := by
  induction h with
  | nil => exact settles_nil
  | stays hc _ ih => exact ih.cons hc
  | struck hc _ ih =>
    have hstroke : Stays stroke := stays_of_le (by decide)
    exact (ih.cons hstroke).cons_of_next (fun _ _ hx ↦ ih.composeFrom_struck hc hx)
      fun h ↦ absurd rfl h

theorem Tidy.stays_of_mem_compose {l : List (Char × ℕ)} (h : Tidy l) :
    ∀ x ∈ compose l, Stays x := by
  induction h with
  | nil => exact fun x hx ↦ absurd hx List.not_mem_nil
  | @stays c k r hc hr ih =>
    cases k with
    | zero => exact fun x hx ↦ hr.settles c [] hc (fun _ hp ↦ absurd hp List.not_mem_nil) x hx
    | succ k =>
      intro x hx
      rcases List.mem_cons.1 (show x ∈ c :: compose r from hx) with rfl | hx
      · exact hc
      · exact ih x hx
  | struck hc hr _ => exact fun x hx ↦ hr.settles.composeFrom_struck hc hx

/-- **The ASCII characters of a composed text stand for themselves**, if the text was plain. -/
theorem stays_of_mem_composed {s : List Char} {x : Char} (h : ∀ c ∈ s, IsPlain c)
    (hx : x ∈ composed s) : Stays x := by
  rw [composed] at hx
  split at hx
  · exact (h x hx).stays
  · exact (tidy_decompose h).stays_of_mem_compose x hx

end Unscramble.Url.Domain

import Mathlib.Data.List.Sort
import Mathlib.Tactic.Ring
import Unscramble.Text.Punycode

/-!
# Punycode is read back

Writing and reading go through the same positions. A position is a code point `n` and a place in the
text so far, and each number counts the positions from one character that is put in to the next. So
the two are in step as long as the number that is counted up says how far the reader is behind, and
that is what `InStep` says: the text so far has what is smaller than `n`, and what is equal to `n`
in the part of the text that writing has gone through. Each move of a position has a lemma there,
and what is read back follows by induction on the text and then on its code points.

## Main definitions

* `soFar`: the text so far.
* `InStep`: where a reader stands when writing has come to a position.

## Main statements

* `readNumber?_writeNumber`: a number is read back.
* `readCodes?_writeCode`: the occurrences of a code point are read back.
* `decode?_encode`: **a text is read back.**
* `le_length_encode`: a text whose code points lie apart is written with many digits.
-/

namespace Unscramble.Text.Punycode

/-! ### Numbers -/

/-- A number is read back, and what follows it is left. -/
theorem readNumber?_writeNumber (bias k n weight : ℕ) (rest : List Char) :
    readNumber? bias k weight (writeNumber bias k n ++ rest) = some (n * weight, rest) := by
  induction n using Nat.strong_induction_on generalizing k weight with
  | h n ih =>
    have hpos := threshold_pos bias k
    have hle := threshold_le bias k
    rw [writeNumber]
    by_cases hn : n < threshold bias k
    · rw [if_pos hn, List.singleton_append, readNumber?, value?_digit (by omega)]
      exact if_pos hn
    · have hmod : (n - threshold bias k) % (36 - threshold bias k) < 36 - threshold bias k :=
        Nat.mod_lt _ (by omega)
      have hlt : (n - threshold bias k) / (36 - threshold bias k) < n :=
        Nat.lt_of_le_of_lt (Nat.div_le_self _ _) (by omega)
      rw [if_neg hn, List.cons_append, readNumber?, value?_digit (by omega)]
      dsimp only
      rw [if_neg (by omega), ih _ hlt, Option.map_some]
      congr 2
      -- the digit and the number behind it make up `n`
      calc (threshold bias k + (n - threshold bias k) % (36 - threshold bias k)) * weight +
            (n - threshold bias k) / (36 - threshold bias k) *
              (weight * (36 - threshold bias k))
          = (threshold bias k + ((n - threshold bias k) % (36 - threshold bias k) +
              (36 - threshold bias k) * ((n - threshold bias k) / (36 - threshold bias k)))) *
              weight := by ring
        _ = n * weight := by rw [Nat.mod_add_div, Nat.add_sub_cancel' (by omega)]

/-- A character that a number is written with. -/
def IsDigit (c : Char) : Prop :=
  ∃ n < 36, c = digit n

theorem isDigit_of_mem_writeNumber {bias k n : ℕ} {c : Char} (h : c ∈ writeNumber bias k n) :
    IsDigit c := by
  induction n using Nat.strong_induction_on generalizing k with
  | h n ih =>
    have hpos := threshold_pos bias k
    have hle := threshold_le bias k
    rw [writeNumber] at h
    split at h
    · exact ⟨n, by omega, List.mem_singleton.1 h⟩
    · have hmod : (n - threshold bias k) % (36 - threshold bias k) < 36 - threshold bias k :=
        Nat.mod_lt _ (by omega)
      rcases List.mem_cons.1 h with rfl | h
      · exact ⟨_, by omega, rfl⟩
      · exact ih _ (Nat.lt_of_le_of_lt (Nat.div_le_self _ _) (by omega)) h

theorem writeNumber_ne_nil (bias k n : ℕ) : writeNumber bias k n ≠ [] := by
  rw [writeNumber]
  split <;> exact List.cons_ne_nil _ _

/-! ### Positions -/

/-- The text so far, when the code point `n` has been written as far as it is in `front`, and has
not been written yet in `rest`. -/
def soFar (n : ℕ) (front rest : List Char) : List Char :=
  front.filter (fun c ↦ decide (c.toNat ≤ n)) ++ rest.filter fun c ↦ decide (c.toNat < n)

/-- The place in the text so far that writing has come to. -/
def placeOf (n : ℕ) (front : List Char) : ℕ :=
  (front.filter fun c ↦ decide (c.toNat ≤ n)).length

section Positions

variable {n : ℕ} {front rest : List Char} {c : Char}

theorem placeOf_le (n : ℕ) (front rest : List Char) :
    placeOf n front ≤ (soFar n front rest).length := by
  rw [placeOf, soFar, List.length_append]
  exact Nat.le_add_right _ _

/-- Going past a character that is not written changes nothing. -/
theorem soFar_snoc (h : c.toNat ≠ n) (front rest : List Char) :
    soFar n (front ++ [c]) rest = soFar n front (c :: rest) := by
  have heq : decide (c.toNat ≤ n) = decide (c.toNat < n) := by
    rw [decide_eq_decide]
    omega
  rw [soFar, soFar, List.filter_append, List.append_assoc, List.filter_cons, List.filter_cons, heq]
  split <;> rfl

/-- The character that is written is put in at the place that writing has come to. -/
theorem soFar_snoc_self (c : Char) (front rest : List Char) :
    soFar c.toNat (front ++ [c]) rest =
      (soFar c.toNat front (c :: rest)).take (placeOf c.toNat front) ++
        c :: (soFar c.toNat front (c :: rest)).drop (placeOf c.toNat front) := by
  have hskip : (c :: rest).filter (fun x ↦ decide (x.toNat < c.toNat)) =
      rest.filter fun x ↦ decide (x.toNat < c.toNat) :=
    List.filter_cons_of_neg (by simp)
  rw [soFar, soFar, placeOf, hskip, List.take_left, List.drop_left, List.filter_append,
    List.append_assoc]
  simp

theorem placeOf_snoc_of_le (h : c.toNat ≤ n) (front : List Char) :
    placeOf n (front ++ [c]) = placeOf n front + 1 := by
  rw [placeOf, List.filter_append, List.length_append, List.filter_cons_of_pos (by simpa using h)]
  rfl

theorem placeOf_snoc_of_lt (h : n < c.toNat) (front : List Char) :
    placeOf n (front ++ [c]) = placeOf n front := by
  rw [placeOf, List.filter_append, List.filter_cons_of_neg (by simpa using h), List.filter_nil,
    List.append_nil, placeOf]

/-- Behind the last place of a code point comes the first of the next one. -/
theorem soFar_succ (n : ℕ) (s : List Char) : soFar (n + 1) [] s = soFar n s [] := by
  rw [soFar, soFar, List.filter_nil, List.nil_append, List.filter_nil, List.append_nil]
  exact List.filter_congr fun c _ ↦ decide_eq_decide.2 Nat.lt_succ_iff

theorem placeOf_eq_length (n : ℕ) (s : List Char) : placeOf n s = (soFar n s []).length := by
  rw [placeOf, soFar, List.filter_nil, List.append_nil]

end Positions

/-! ### The reader keeps up -/

/-- Where a reader stands when writing has come to the place of `n` behind `front`. It is at the
code point `next`, and what has been counted is how far the position is ahead of it. -/
structure InStep (ascii n : ℕ) (front rest : List Char) (counter : Counter) (next place : ℕ)
    (first : Bool) : Prop where
  next_le : next ≤ n
  written_eq : counter.written = (soFar n front rest).length
  steps_eq : place + counter.delta = (n - next) * (counter.written + 1) + placeOf n front
  ascii_le : ascii ≤ counter.written
  first_eq : first = (counter.written == ascii)

/-- A number that is read puts in the character that it was written for. -/
theorem readCodes?_of_number {s rest out : List Char} {next place bias delta i : ℕ} {first : Bool}
    {c : Char} (h : readNumber? bias 36 1 s = some (delta, rest)) (hnext : next ≤ c.toNat)
    (hsteps : place + delta = (c.toNat - next) * (out.length + 1) + i) (hi : i ≤ out.length) :
    readCodes? s out next place bias first =
      readCodes? rest (out.take i ++ c :: out.drop i) c.toNat (i + 1)
        (adapt delta (out.length + 1) first) false := by
  have hne : s.isEmpty = false := by
    cases s with
    | nil => cases h
    | cons => rfl
  have hdiv : (place + delta) / (out.length + 1) = c.toNat - next := by
    rw [hsteps, Nat.mul_comm, Nat.mul_add_div (Nat.succ_pos _),
      Nat.div_eq_of_lt (Nat.lt_succ_of_le hi), Nat.add_zero]
  have hmod : (place + delta) % (out.length + 1) = i := by
    rw [hsteps, Nat.mul_comm, Nat.mul_add_mod, Nat.mod_eq_of_lt (Nat.lt_succ_of_le hi)]
  have hcode : next + (place + delta) / (out.length + 1) = c.toNat := by omega
  conv_lhs => rw [readCodes?, hne, if_neg Bool.false_ne_true]
  split
  · next hnone => rw [h] at hnone; cases hnone
  · next delta' rest' hsome =>
    rw [h] at hsome
    cases hsome
    simp only [hcode, hmod, Char.ofNat_toNat, if_pos]

namespace InStep

variable {ascii n next place : ℕ} {front rest : List Char} {counter : Counter} {first : Bool}
  {c : Char}

/-- A smaller character is gone past and counted. -/
theorem snoc_of_lt (h : InStep ascii n front (c :: rest) counter next place first)
    (hc : c.toNat < n) :
    InStep ascii n (front ++ [c]) rest { counter with delta := counter.delta + 1 } next place
      first where
  next_le := h.next_le
  written_eq := by
    rw [soFar_snoc hc.ne]
    exact h.written_eq
  steps_eq := by
    rw [placeOf_snoc_of_le hc.le, ← Nat.add_assoc, ← Nat.add_assoc, ← h.steps_eq]
  ascii_le := h.ascii_le
  first_eq := h.first_eq

/-- A larger character is gone past. -/
theorem snoc_of_gt (h : InStep ascii n front (c :: rest) counter next place first)
    (hc : n < c.toNat) : InStep ascii n (front ++ [c]) rest counter next place first where
  next_le := h.next_le
  written_eq := by
    rw [soFar_snoc hc.ne']
    exact h.written_eq
  steps_eq := by
    rw [placeOf_snoc_of_lt hc]
    exact h.steps_eq
  ascii_le := h.ascii_le
  first_eq := h.first_eq

/-- The character itself is written, and counting begins anew behind it. -/
theorem snoc_self (h : InStep ascii c.toNat front (c :: rest) counter next place first)
    (bias : ℕ) :
    InStep ascii c.toNat (front ++ [c]) rest ⟨0, bias, counter.written + 1⟩ c.toNat
      (placeOf c.toNat front + 1) false where
  next_le := le_rfl
  written_eq := by
    have hplace := placeOf_le c.toNat front (c :: rest)
    show counter.written + 1 = (soFar c.toNat (front ++ [c]) rest).length
    rw [soFar_snoc_self, List.length_append, List.length_cons, List.length_take, List.length_drop,
      h.written_eq]
    omega
  steps_eq := by
    rw [placeOf_snoc_of_le le_rfl, Nat.sub_self, Nat.zero_mul, Nat.zero_add, Nat.add_zero]
  ascii_le := Nat.le_succ_of_le h.ascii_le
  first_eq := by
    have hne : counter.written + 1 ≠ ascii := by
      have := h.ascii_le
      omega
    exact (beq_eq_false_iff_ne.2 hne).symm

/-- The number of a character is read, and the character put in at its place. -/
theorem readCodes?_self (h : InStep ascii c.toNat front (c :: rest) counter next place first)
    (more : List Char) :
    readCodes? (writeNumber counter.bias 36 counter.delta ++ more)
        (soFar c.toNat front (c :: rest)) next place counter.bias first =
      readCodes? more (soFar c.toNat (front ++ [c]) rest) c.toNat (placeOf c.toNat front + 1)
        (adapt counter.delta (counter.written + 1) (counter.written == ascii)) false := by
  have hwritten := h.written_eq
  rw [readCodes?_of_number (readNumber?_writeNumber _ _ _ _ _) h.next_le
    (i := placeOf c.toNat front) (by rw [← hwritten, Nat.mul_one]; exact h.steps_eq)
    (placeOf_le c.toNat front (c :: rest)), ← soFar_snoc_self, ← hwritten, h.first_eq, Nat.mul_one]

end InStep

/-- **The occurrences of a code point are read back**: the reader keeps up with the writing of one
code point in the rest of a text. -/
theorem readCodes?_writeCode (ascii n : ℕ) (rest : List Char) (front : List Char)
    (counter : Counter) {next place : ℕ} {first : Bool}
    (h : InStep ascii n front rest counter next place first) :
    ∃ next' place' first',
      InStep ascii n (front ++ rest) [] (writeCode ascii n rest counter).2 next' place' first' ∧
      ∀ more, readCodes? ((writeCode ascii n rest counter).1 ++ more) (soFar n front rest) next
          place counter.bias first =
        readCodes? more (soFar n (front ++ rest) []) next' place'
          (writeCode ascii n rest counter).2.bias first' := by
  induction rest generalizing front counter next place first with
  | nil =>
    rw [List.append_nil]
    exact ⟨next, place, first, h, fun more ↦ rfl⟩
  | cons c rest ih =>
    rw [List.append_cons]
    rcases Nat.lt_trichotomy c.toNat n with hc | rfl | hc
    · rw [writeCode, if_pos hc, ← soFar_snoc hc.ne]
      exact ih _ _ (h.snoc_of_lt hc)
    · obtain ⟨next', place', first', hstep', hread⟩ := ih _ _ (h.snoc_self _)
      rw [writeCode, if_neg (Nat.lt_irrefl _), if_pos rfl]
      refine ⟨next', place', first', hstep', fun more ↦ ?_⟩
      rw [← hread more, ← h.readCodes?_self, ← List.append_assoc]
    · rw [writeCode, if_neg (Nat.lt_asymm hc), if_neg hc.ne', ← soFar_snoc hc.ne']
      exact ih _ _ (h.snoc_of_gt hc)

/-- The code points that are to be written: those of a text from `next` on, in ascending order. -/
structure Covers (codes : List ℕ) (next : ℕ) (s : List Char) : Prop where
  ascending : codes.Pairwise (· < ·)
  next_le : ∀ n ∈ codes, next ≤ n
  mem : ∀ c ∈ s, next ≤ c.toNat → c.toNat ∈ codes

/-- The text so far has everything below the first code point that is to be written. -/
theorem Covers.soFar_eq {codes : List ℕ} {next n : ℕ} {s : List Char}
    (h : Covers (n :: codes) next s) : soFar n [] s = soFar next [] s := by
  rw [soFar, soFar, List.filter_nil, List.nil_append]
  refine List.filter_congr fun c hc ↦ ?_
  rw [decide_eq_decide]
  refine ⟨fun hlt ↦ ?_, fun hlt ↦ hlt.trans_le (h.next_le n List.mem_cons_self)⟩
  by_contra hge
  rcases List.mem_cons.1 (h.mem c hc (Nat.not_lt.1 hge)) with heq | hlater
  · omega
  · exact Nat.lt_asymm hlt (List.rel_of_pairwise_cons h.ascending hlater)

theorem Covers.tail {codes : List ℕ} {next n : ℕ} {s : List Char}
    (h : Covers (n :: codes) next s) : Covers codes (n + 1) s where
  ascending := h.ascending.of_cons
  next_le _ hm := List.rel_of_pairwise_cons h.ascending hm
  mem c hc hle := by
    have hnext := h.next_le n List.mem_cons_self
    rcases List.mem_cons.1 (h.mem c hc (by omega)) with heq | hmem
    · omega
    · exact hmem

namespace InStep

variable {ascii n next nextRead place : ℕ} {s : List Char} {counter : Counter} {first : Bool}

/-- Before the next code point is written, the steps up to it are counted. -/
theorem ahead {codes : List ℕ} (h : InStep ascii next [] s counter nextRead place first)
    (hcodes : Covers (n :: codes) next s) :
    InStep ascii n [] s
      { counter with delta := counter.delta + (n - next) * (counter.written + 1) } nextRead place
      first where
  next_le := h.next_le.trans (hcodes.next_le n List.mem_cons_self)
  written_eq := by
    rw [hcodes.soFar_eq]
    exact h.written_eq
  steps_eq := by
    have hsteps : place + counter.delta = (next - nextRead) * (counter.written + 1) := h.steps_eq
    have hsum : n - nextRead = (next - nextRead) + (n - next) := by
      have := h.next_le
      have := hcodes.next_le n List.mem_cons_self
      omega
    show place + (counter.delta + (n - next) * (counter.written + 1)) =
      (n - nextRead) * (counter.written + 1)
    rw [hsum, Nat.add_mul, ← hsteps, Nat.add_assoc]
  ascii_le := h.ascii_le
  first_eq := h.first_eq

/-- Behind the last place, one more step leads to the first place with the next code point. -/
theorem turn (h : InStep ascii n s [] counter nextRead place first) :
    InStep ascii (n + 1) [] s { counter with delta := counter.delta + 1 } nextRead place
      first where
  next_le := Nat.le_succ_of_le h.next_le
  written_eq := by
    rw [soFar_succ]
    exact h.written_eq
  steps_eq := by
    have hsteps := h.steps_eq
    rw [placeOf_eq_length, ← h.written_eq] at hsteps
    have hsum : n + 1 - nextRead = (n - nextRead) + 1 := by
      have := h.next_le
      omega
    show place + (counter.delta + 1) = (n + 1 - nextRead) * (counter.written + 1) + 0
    rw [hsum, Nat.succ_mul, ← Nat.add_assoc, hsteps]
    omega
  ascii_le := h.ascii_le
  first_eq := h.first_eq

end InStep

/-- **The code points of a text are read back** one after the other. -/
theorem readCodes?_writeCodes (s : List Char) (ascii : ℕ) (codes : List ℕ) (next : ℕ)
    (counter : Counter) {nextRead place : ℕ} {first : Bool} (hcodes : Covers codes next s)
    (h : InStep ascii next [] s counter nextRead place first) :
    readCodes? (writeCodes s ascii codes next counter) (soFar next [] s) nextRead place
      counter.bias first = some s := by
  induction codes generalizing next counter nextRead place first with
  | nil =>
    have hall : soFar next [] s = s := by
      rw [soFar, List.filter_nil, List.nil_append, List.filter_eq_self]
      intro c hc
      rw [decide_eq_true_iff]
      by_contra hge
      exact absurd (hcodes.mem c hc (Nat.not_lt.1 hge)) List.not_mem_nil
    rw [writeCodes, readCodes?, List.isEmpty_nil, if_pos rfl, hall]
  | cons n codes ih =>
    obtain ⟨next', place', first', hdone, hread⟩ :=
      readCodes?_writeCode ascii n s [] _ (h.ahead hcodes)
    rw [List.nil_append] at hdone hread
    have hrest := ih (n + 1) _ hcodes.tail hdone.turn
    rw [soFar_succ] at hrest
    rw [writeCodes, ← hcodes.soFar_eq]
    exact (hread _).trans hrest

/-! ### Texts -/

/-- Dropping repetitions leaves a list in strictly ascending order. -/
theorem pairwise_eraseDups {l : List ℕ} (h : l.Pairwise (· ≤ ·)) :
    l.eraseDups.Pairwise (· < ·) := by
  induction hl : l.length using Nat.strong_induction_on generalizing l with
  | h k ih =>
    cases l with
    | nil => exact .nil
    | cons a l =>
      have hlength : (l.filter fun b ↦ !b == a).length < k := by
        rw [← hl]
        exact Nat.lt_succ_of_le (List.length_filter_le _ _)
      rw [List.eraseDups_cons]
      refine List.pairwise_cons.2 ⟨fun b hb ↦ ?_, ih _ hlength (h.of_cons.filter _) rfl⟩
      obtain ⟨hb, hne⟩ := List.mem_filter.1 (List.mem_eraseDups.1 hb)
      have hle : a ≤ b := List.rel_of_pairwise_cons h hb
      have hba : b ≠ a := by simpa using hne
      omega

/-- The code points of a text beyond ASCII, in ascending order. -/
def codesOf (s : List Char) : List ℕ :=
  (((s.map Char.toNat).filter (0x80 ≤ ·)).mergeSort).eraseDups

theorem mem_codesOf {s : List Char} {n : ℕ} :
    n ∈ codesOf s ↔ 0x80 ≤ n ∧ ∃ c ∈ s, c.toNat = n := by
  rw [codesOf, List.mem_eraseDups, List.mem_mergeSort, List.mem_filter, List.mem_map,
    decide_eq_true_iff, and_comm]

theorem covers_codesOf (s : List Char) : Covers (codesOf s) 0x80 s where
  ascending := by
    refine pairwise_eraseDups ?_
    have hsorted := @List.pairwise_mergeSort ℕ (fun a b ↦ decide (a ≤ b))
      (fun a b c hab hbc ↦ decide_eq_true
        (Nat.le_trans (of_decide_eq_true hab) (of_decide_eq_true hbc)))
      (fun a b ↦ by simpa using Nat.le_total a b) ((s.map Char.toNat).filter (0x80 ≤ ·))
    exact hsorted.imp fun h ↦ of_decide_eq_true h
  next_le n hn := (mem_codesOf.1 hn).1
  mem c hc hle := mem_codesOf.2 ⟨hle, c, hc, rfl⟩

/-- The ASCII characters of a text. -/
def asciiOf (s : List Char) : List Char :=
  s.filter (·.toNat < 0x80)

/-- The numbers of a text. -/
def numbersOf (s : List Char) : List Char :=
  writeCodes s (asciiOf s).length (codesOf s) 0x80 ⟨0, 72, (asciiOf s).length⟩

theorem encode_eq (s : List Char) :
    encode s = asciiOf s ++ (if (asciiOf s).isEmpty then [] else ['-']) ++ numbersOf s :=
  rfl

theorem isDigit_of_mem_writeCode {ascii n : ℕ} {s : List Char} {counter : Counter} {c : Char}
    (h : c ∈ (writeCode ascii n s counter).1) : IsDigit c := by
  induction s generalizing counter with
  | nil => cases h
  | cons d s ih =>
    rw [writeCode] at h
    split at h
    · exact ih h
    · split at h
      · rcases List.mem_append.1 h with h | h
        · exact isDigit_of_mem_writeNumber h
        · exact ih h
      · exact ih h

theorem isDigit_of_mem_writeCodes {s : List Char} {ascii : ℕ} {codes : List ℕ} {next : ℕ}
    {counter : Counter} {c : Char} (h : c ∈ writeCodes s ascii codes next counter) :
    IsDigit c := by
  induction codes generalizing next counter with
  | nil => cases h
  | cons n codes ih =>
    rw [writeCodes] at h
    rcases List.mem_append.1 h with h | h
    · exact isDigit_of_mem_writeCode h
    · exact ih h

theorem writeCode_ne_nil {ascii : ℕ} {s : List Char} {c : Char} (h : c ∈ s) (counter : Counter) :
    (writeCode ascii c.toNat s counter).1 ≠ [] := by
  induction s generalizing counter with
  | nil => cases h
  | cons d s ih =>
    rw [writeCode]
    rcases Nat.lt_trichotomy d.toNat c.toNat with hd | hd | hd
    · rw [if_pos hd]
      exact ih ((List.mem_cons.1 h).resolve_left (by rintro rfl; omega)) _
    · rw [if_neg (by omega), if_pos hd]
      exact List.append_ne_nil_of_left_ne_nil (writeNumber_ne_nil _ _ _) _
    · rw [if_neg (by omega), if_neg (by omega)]
      exact ih ((List.mem_cons.1 h).resolve_left (by rintro rfl; omega)) _

/-- A text that is not ASCII has numbers. -/
theorem numbersOf_ne_nil {s : List Char} {c : Char} (hc : c ∈ s) (h : 0x80 ≤ c.toNat) :
    numbersOf s ≠ [] := by
  have hmem : c.toNat ∈ codesOf s := mem_codesOf.2 ⟨h, c, hc, rfl⟩
  rw [numbersOf]
  cases hcodes : codesOf s with
  | nil =>
    rw [hcodes] at hmem
    cases hmem
  | cons n codes =>
    obtain ⟨-, d, hd, rfl⟩ := mem_codesOf.1 (hcodes ▸ List.mem_cons_self : n ∈ codesOf s)
    rw [writeCodes]
    exact List.append_ne_nil_of_left_ne_nil (writeCode_ne_nil hd _) _

theorem IsDigit.ne_hyphen {c : Char} (h : IsDigit c) : c ≠ '-' := by
  obtain ⟨n, hn, rfl⟩ := h
  have hall : ∀ m < 36, digit m ≠ '-' := by decide
  exact hall n hn

/-- The characters that a text is written with. -/
theorem mem_encode {s : List Char} {c : Char} (h : c ∈ encode s) :
    (c ∈ s ∧ c.toNat < 0x80) ∨ c = '-' ∨ IsDigit c := by
  rw [encode_eq, List.mem_append, List.mem_append] at h
  rcases h with (h | h) | h
  · obtain ⟨hc, hascii⟩ := List.mem_filter.1 h
    exact .inl ⟨hc, of_decide_eq_true hascii⟩
  · split at h
    · cases h
    · exact .inr (.inl (List.mem_singleton.1 h))
  · exact .inr (.inr (isDigit_of_mem_writeCodes h))

/-- The written form of a text that is not ASCII ends in a digit. -/
theorem exists_getLast?_encode {s : List Char} {c : Char} (hc : c ∈ s) (h : 0x80 ≤ c.toNat) :
    ∃ d, (encode s).getLast? = some d ∧ IsDigit d := by
  have hne := numbersOf_ne_nil hc h
  refine ⟨(numbersOf s).getLast hne, ?_, isDigit_of_mem_writeCodes (List.getLast_mem hne)⟩
  rw [encode_eq, List.getLast?_append_of_ne_nil _ hne, List.getLast?_eq_some_getLast hne]

/-- The reader begins where writing does. -/
theorem inStep_start (s : List Char) :
    InStep (asciiOf s).length 0x80 [] s ⟨0, 72, (asciiOf s).length⟩ 0x80 0 true where
  next_le := le_rfl
  written_eq := rfl
  steps_eq := by
    rw [Nat.sub_self, Nat.zero_mul]
    rfl
  ascii_le := le_rfl
  first_eq := (beq_self_eq_true _).symm

/-- **A text is read back** from its written form. -/
theorem decode?_encode (s : List Char) : decode? (encode s) = some s := by
  have hread : readCodes? (numbersOf s) (asciiOf s) 0x80 0 72 true = some s :=
    readCodes?_writeCodes s _ _ _ _ (covers_codesOf s) (inStep_start s)
  have hascii : (asciiOf s).all (·.toNat < 0x80) = true :=
    List.all_eq_true.2 fun c hc ↦ (List.mem_filter.1 hc).2
  have hdigits : ∀ c ∈ (numbersOf s).reverse, (c != '-') = true := fun c hc ↦ by
    simpa using (isDigit_of_mem_writeCodes (List.mem_reverse.1 hc)).ne_hyphen
  -- the last hyphen is the one that was written between the two parts
  have htake : ((encode s).reverse.takeWhile (· != '-')).reverse = numbersOf s := by
    rw [encode_eq, List.reverse_append, List.takeWhile_append_of_pos hdigits]
    cases hempty : (asciiOf s).isEmpty with
    | true => simp [List.isEmpty_iff.1 hempty]
    | false => simp
  have hdrop : (((encode s).reverse.dropWhile (· != '-')).drop 1).reverse = asciiOf s := by
    rw [encode_eq, List.reverse_append, List.dropWhile_append_of_pos hdigits]
    cases hempty : (asciiOf s).isEmpty with
    | true => simp [List.isEmpty_iff.1 hempty]
    | false => simp
  rw [decode?, htake, hdrop, hascii, if_pos rfl, hread]

/-! ### Lengths -/

/-- **A large number takes three digits**, whatever the bias: no threshold is above twenty-six, and
no digit stands for more than thirty-five. -/
theorem three_le_length_writeNumber {n : ℕ} (h : 936 ≤ n) (bias k : ℕ) :
    3 ≤ (writeNumber bias k n).length := by
  have hpos := threshold_pos bias k
  have hle := threshold_le bias k
  have hnext := threshold_le bias (k + 36)
  have hquotient : 26 ≤ (n - threshold bias k) / (36 - threshold bias k) := by
    rw [Nat.le_div_iff_mul_le (by omega)]
    omega
  have hlast := List.length_pos_iff.2 (writeNumber_ne_nil bias (k + 36 + 36)
    (((n - threshold bias k) / (36 - threshold bias k) - threshold bias (k + 36)) /
      (36 - threshold bias (k + 36))))
  rw [writeNumber, if_neg (by omega), List.length_cons, writeNumber, if_neg (by omega),
    List.length_cons]
  omega

section Writing

variable {n : ℕ} {s : List Char}

theorem written_le_writeCode (ascii n : ℕ) (s : List Char) (counter : Counter) :
    counter.written ≤ (writeCode ascii n s counter).2.written := by
  induction s generalizing counter with
  | nil => exact le_rfl
  | cons c s ih =>
    rw [writeCode]
    split
    · exact ih { counter with delta := counter.delta + 1 }
    · split
      · exact (Nat.le_succ _).trans (ih ⟨0, _, counter.written + 1⟩)
      · exact ih counter

/-- A code point that a text has is written, with three digits if enough has been counted up. -/
theorem length_writeCode (ascii : ℕ) (hmem : ∃ c ∈ s, c.toNat = n) (counter : Counter) :
    counter.written + 1 ≤ (writeCode ascii n s counter).2.written ∧
      (936 ≤ counter.delta → 3 ≤ (writeCode ascii n s counter).1.length) := by
  induction s generalizing counter with
  | nil =>
    obtain ⟨c, hc, -⟩ := hmem
    cases hc
  | cons c s ih =>
    rw [writeCode]
    rcases Nat.lt_trichotomy c.toNat n with hc | hc | hc
    · obtain ⟨hwritten, hlength⟩ := ih (by grind) { counter with delta := counter.delta + 1 }
      rw [if_pos hc]
      exact ⟨hwritten, fun hdelta ↦ hlength (Nat.le_succ_of_le hdelta)⟩
    · rw [if_neg (by omega), if_pos hc]
      refine ⟨written_le_writeCode ascii n s ⟨0, _, counter.written + 1⟩, fun hdelta ↦ ?_⟩
      rw [List.length_append]
      exact Nat.le_add_right_of_le (three_le_length_writeNumber hdelta counter.bias 36)
    · rw [if_neg (by omega), if_neg (by omega)]
      exact ih (by grind) counter

/-- Code points that lie apart are written with three digits each, when as many characters have been
written that the steps over a gap take three. `early` bounds how many come before that. -/
theorem le_length_writeCodes (ascii : ℕ) {gap early next : ℕ} {codes : List ℕ}
    {counter : Counter} (hgap : 936 ≤ gap * (counter.written + 1 + early))
    (hcodes : codes.Pairwise fun a b ↦ a + gap < b) (hnext : ∀ n ∈ codes, next + gap ≤ n)
    (hmem : ∀ n ∈ codes, ∃ c ∈ s, c.toNat = n) :
    3 * (codes.length - early) ≤ (writeCodes s ascii codes next counter).length := by
  induction codes generalizing next counter early with
  | nil => simp
  | cons n codes ih =>
    rw [List.forall_mem_cons] at hnext hmem
    obtain ⟨hwritten, hthree⟩ := length_writeCode ascii hmem.1
      { counter with delta := counter.delta + (n - next) * (counter.written + 1) }
    rw [writeCodes, List.length_append, List.length_cons]
    dsimp only at hwritten hthree ⊢
    generalize hlast : writeCode ascii n s
      { counter with delta := counter.delta + (n - next) * (counter.written + 1) } = last
    rw [hlast] at hwritten hthree
    have hlater : 3 * (codes.length - (early - 1)) ≤
        (writeCodes s ascii codes (n + 1) { last.2 with delta := last.2.delta + 1 }).length := by
      refine ih (hgap.trans (Nat.mul_le_mul_left gap ?_)) hcodes.of_cons (fun m hm ↦ ?_) hmem.2
      · show counter.written + 1 + early ≤ last.2.written + 1 + (early - 1)
        omega
      · have := List.rel_of_pairwise_cons hcodes hm
        omega
    dsimp only at hlater
    cases early with
    | zero =>
      rw [Nat.add_zero] at hgap
      have hsteps : gap * (counter.written + 1) ≤ (n - next) * (counter.written + 1) :=
        Nat.mul_le_mul_right _ (by omega)
      have := hthree (by omega)
      omega
    | succ early => omega

end Writing

/-- **A text whose code points lie apart is written with many digits.** -/
theorem le_length_encode {gap early : ℕ} {s : List Char}
    (hgap : 936 ≤ gap * (1 + early)) (hle : ∀ c ∈ s, 0x80 + gap ≤ c.toNat)
    (hcodes : (s.map Char.toNat).Pairwise fun a b ↦ a + gap < b) :
    3 * (s.length - early) ≤ (encode s).length := by
  have hmem : ∀ n, n ∈ codesOf s ↔ n ∈ s.map Char.toNat := by
    intro n
    rw [mem_codesOf, List.mem_map]
    refine ⟨fun h ↦ h.2, fun h ↦ ⟨?_, h⟩⟩
    obtain ⟨c, hc, rfl⟩ := h
    exact (Nat.le_add_right _ _).trans (hle c hc)
  have hsorted : codesOf s = s.map Char.toNat :=
    (covers_codesOf s).ascending.eq_of_mem_iff (hcodes.imp fun h ↦ by omega) hmem
  have hnumbers : 3 * ((s.map Char.toNat).length - early) ≤ (numbersOf s).length := by
    rw [numbersOf, hsorted]
    refine le_length_writeCodes _ (hgap.trans (Nat.mul_le_mul_left gap ?_)) hcodes
      (fun n hn ↦ ?_) fun n hn ↦ List.mem_map.1 hn
    · show 1 + early ≤ (asciiOf s).length + 1 + early
      omega
    · obtain ⟨c, hc, rfl⟩ := List.mem_map.1 hn
      exact hle c hc
  rw [List.length_map] at hnumbers
  rw [encode_eq, List.length_append]
  exact hnumbers.trans (Nat.le_add_left _ _)

end Unscramble.Text.Punycode

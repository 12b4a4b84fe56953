import Mathlib.Data.List.DropRight
import Unscramble.Text.Blank
import Unscramble.Text.Split

/-!
# Blank texts and cut texts

Which texts trim to nothing or to themselves, and what cutting or replacing gives for a text that is
put together from pieces without the separator.

## Main statements

* `trim_eq_nil_iff`: only a text of white space trims to nothing.
* `pieces_append_cons_of_forall`, `splitFirst?_append_cons`: a text is cut at its first separator.
* `replaceAll_append_append`: an only occurrence is replaced.
-/

namespace Unscramble.Text

/-! ### Trimming -/

/-- **Only white space trims to nothing.** -/
theorem trim_eq_nil_iff {s : List Char} : trim s = [] ↔ s.all isBlank = true := by
  refine ⟨fun h ↦ ?_, trim_of_all_isBlank⟩
  have hrev : (trimLeft s).all isBlank = true := by
    rw [trim, trimRight, List.reverse_eq_nil_iff, List.dropWhile_eq_nil_iff] at h
    exact List.all_eq_true.2 fun c hc ↦ h c (List.mem_reverse.2 hc)
  rw [← List.takeWhile_append_dropWhile (p := isBlank) (l := s), List.all_append,
    Bool.and_eq_true]
  exact ⟨List.all_takeWhile, hrev⟩

/-- A text that begins and ends with something else than white space trims to itself. -/
theorem trim_eq_self {s : List Char} (hhead : ∀ c ∈ s.head?, isBlank c = false)
    (hlast : ∀ c ∈ s.getLast?, isBlank c = false) : trim s = s := by
  have hleft : trimLeft s = s := by
    cases s with
    | nil => rfl
    | cons c s => exact List.dropWhile_cons_of_neg (by simp [hhead c rfl])
  rw [trim, hleft, trimRight]
  cases hs : s.reverse with
  | nil => rw [List.reverse_eq_nil_iff.1 hs]; rfl
  | cons c r =>
    have hc : c ∈ s.getLast? := by
      rw [← List.head?_reverse, hs]
      rfl
    rw [List.dropWhile_cons_of_neg (by simp [hlast c hc]), ← hs, List.reverse_reverse]

/-- White space on both sides of a text is trimmed off. -/
theorem trim_append_of_all_isBlank {a b : List Char} (ha : a.all isBlank = true)
    (hb : b.all isBlank = true) (s : List Char) : trim (a ++ (s ++ b)) = trim s := by
  have hright (t : List Char) : trimRight (t ++ b) = trimRight t := by
    have hrev : b.reverse.all isBlank = true := by rwa [List.all_reverse]
    rw [trimRight, List.reverse_append]
    exact congrArg List.reverse (trimLeft_append_of_all_isBlank hrev t.reverse)
  rw [trim, trimLeft_append_of_all_isBlank ha]
  by_cases hs : s.all isBlank = true
  · have hall : (s ++ b).all isBlank = true := by rw [List.all_append, hs, hb]; rfl
    rw [← trim, trim_of_all_isBlank hall, trim_of_all_isBlank hs]
  · -- the text has its own first character, so nothing of what follows is dropped
    have hleft : trimLeft (s ++ b) = trimLeft s ++ b := by
      rw [trimLeft, trimLeft, List.dropWhile_append, if_neg]
      rwa [List.isEmpty_iff, List.dropWhile_eq_nil_iff, ← List.all_eq_true]
    rw [hleft, hright, trim]

/-- White space in front of a text is trimmed off. -/
theorem trim_cons_of_isBlank {c : Char} (h : isBlank c = true) (s : List Char) :
    trim (c :: s) = trim s := by
  rw [trim, trimLeft, List.dropWhile_cons_of_pos h]
  rfl

/-- Trimming only drops characters. -/
theorem trim_sublist (s : List Char) : (trim s).Sublist s := by
  rw [trim, trimRight, ← List.reverse_sublist, List.reverse_reverse]
  exact (List.dropWhile_sublist _).trans
    (List.reverse_sublist.2 (List.dropWhile_sublist (l := s) isBlank))

/-! ### Dropping at the end -/

theorem rdropWhile_append_cons {p : Char → Bool} {c : Char} (h : p c = false) (s t : List Char) :
    (s ++ c :: t).rdropWhile p = s ++ c :: t.rdropWhile p := by
  induction t using List.reverseRecOn with
  | nil => rw [List.rdropWhile_concat_neg p s c (by simp [h]), List.rdropWhile_nil]
  | append_singleton t d ih =>
    rw [← List.cons_append, ← List.append_assoc]
    by_cases hd : p d = true
    · rw [List.rdropWhile_concat_pos p _ d hd, List.rdropWhile_concat_pos p _ d hd, ih]
    · rw [List.rdropWhile_concat_neg p _ d hd, List.rdropWhile_concat_neg p _ d hd,
        List.append_assoc, List.cons_append]

theorem rdropWhile_append_of_forall {p : Char → Bool} {t : List Char} (h : ∀ c ∈ t, p c = true)
    (s : List Char) : (s ++ t).rdropWhile p = s.rdropWhile p := by
  rw [List.rdropWhile, List.reverse_append, List.dropWhile_append_of_pos fun c hc ↦
    h c (List.mem_reverse.1 hc), List.rdropWhile]

/-- What is left is in front of characters that are dropped, and ends with none. -/
theorem rdropWhile_eq_iff {p : Char → Bool} {s t : List Char} :
    s.rdropWhile p = t ↔ (∀ c ∈ t.getLast?, p c = false) ∧
      ∃ dropped, s = t ++ dropped ∧ ∀ c ∈ dropped, p c = true := by
  constructor
  · rintro rfl
    refine ⟨fun c hc ↦ ?_, s.rtakeWhile p, List.rdropWhile_append_rtakeWhile.symm,
      fun _ ↦ List.mem_rtakeWhile_imp⟩
    obtain ⟨hne, rfl⟩ := List.mem_getLast?_eq_getLast hc
    exact Bool.eq_false_iff.2 (List.rdropWhile_last_not p s hne)
  · rintro ⟨hlast, dropped, rfl, hdropped⟩
    rw [rdropWhile_append_of_forall hdropped, List.rdropWhile_eq_self_iff]
    exact fun hne ↦ Bool.eq_false_iff.1 (hlast _ (List.getLast?_eq_some_getLast hne))

/-! ### Cutting -/

/-- What stands in front of the first character outside a class is the same however it is found. -/
theorem eq_of_append_cons_eq {p : Char → Bool} {u v r t : List Char} {c d : Char}
    (h : u ++ c :: r = v ++ d :: t) (hu : ∀ x ∈ u, p x = true) (hv : ∀ x ∈ v, p x = true)
    (hc : p c = false) (hd : p d = false) : u = v := by
  have hfront := congrArg (List.takeWhile p) h
  rwa [List.takeWhile_append_of_pos hu, List.takeWhile_append_of_pos hv,
    List.takeWhile_cons_of_neg (by simp [hc]), List.takeWhile_cons_of_neg (by simp [hd]),
    List.append_nil, List.append_nil] at hfront

/-- What does not reach a character lies in front of it. -/
theorem prefix_of_append_eq_append_cons {u v r t : List Char} {c : Char}
    (h : u ++ r = v ++ c :: t) (hu : c ∉ u) : u <+: v := by
  rcases List.append_eq_append_iff.1 h with ⟨w, hw, -⟩ | ⟨w, hw, hrest⟩
  · exact ⟨w, hw.symm⟩
  · cases w with
    | nil => exact ⟨[], by rw [hw, List.append_nil, List.append_nil]⟩
    | cons d w =>
      obtain rfl := (List.cons.inj hrest).1
      exact absurd (hw ▸ List.mem_append_right v List.mem_cons_self) hu

/-- Each piece is a part of the text without a separator. -/
theorem of_mem_pieces {p : Char → Bool} {s w : List Char} {c : Char} (hw : w ∈ pieces p s)
    (hc : c ∈ w) : c ∈ s ∧ p c = false := by
  induction s generalizing w with
  | nil =>
    rw [List.mem_singleton.1 hw] at hc
    cases hc
  | cons d s ih =>
    have hlater {v : List Char} (hv : v ∈ pieces p s) (hc : c ∈ v) : c ∈ d :: s ∧ p c = false :=
      (ih hv hc).imp_left (List.mem_cons_of_mem d)
    rw [pieces] at hw
    split at hw
    · rcases List.mem_cons.1 hw with rfl | hw
      · cases hc
      · exact hlater hw hc
    · next hd =>
      cases hs : pieces p s with
      | nil => exact absurd hs (pieces_ne_nil _ _)
      | cons v vs =>
        rw [hs] at hw hlater
        rcases List.mem_cons.1 hw with rfl | hw
        · rcases List.mem_cons.1 hc with rfl | hc
          · exact ⟨List.mem_cons_self, Bool.eq_false_iff.2 hd⟩
          · exact hlater List.mem_cons_self hc
        · exact hlater (List.mem_cons_of_mem v hw) hc

/-- The pieces of a text are parts of it, one behind the other. -/
theorem flatten_pieces_sublist (p : Char → Bool) (s : List Char) :
    (pieces p s).flatten.Sublist s := by
  induction s with
  | nil => exact List.Sublist.refl _
  | cons c s ih =>
    rw [pieces]
    split
    · rw [List.flatten_cons, List.nil_append]
      exact ih.cons c
    · cases hs : pieces p s with
      | nil => exact absurd hs (pieces_ne_nil _ _)
      | cons w ws =>
        rw [hs] at ih
        exact ih.cons_cons c

theorem sublist_of_mem_pieces {p : Char → Bool} {s w : List Char} (h : w ∈ pieces p s) :
    w.Sublist s :=
  (List.sublist_flatten_of_mem h).trans (flatten_pieces_sublist p s)

section Joined

variable {p : Char → Bool} {s : List Char}

theorem pieces_of_forall (h : ∀ c ∈ s, p c = false) : pieces p s = [s] := by
  induction s with
  | nil => rfl
  | cons c s ih =>
    rw [List.forall_mem_cons] at h
    rw [pieces, h.1, if_neg Bool.false_ne_true, ih h.2]

/-- A text is cut at its first separator. -/
theorem pieces_append_cons_of_forall (h : ∀ c ∈ s, p c = false) {sep : Char} (hsep : p sep = true)
    (r : List Char) : pieces p (s ++ sep :: r) = s :: pieces p r := by
  induction s with
  | nil => rw [List.nil_append, pieces, if_pos hsep]
  | cons c s ih =>
    rw [List.forall_mem_cons] at h
    rw [List.cons_append, pieces, h.1, if_neg Bool.false_ne_true, ih h.2]

/-- Texts without a separator are the pieces of what they are joined to by one. -/
theorem pieces_intercalate_of_forall {sep : Char} (hsep : p sep = true) {ss : List (List Char)}
    (hne : ss ≠ []) (h : ∀ s ∈ ss, ∀ c ∈ s, p c = false) :
    pieces p ([sep].intercalate ss) = ss := by
  induction ss with
  | nil => exact absurd rfl hne
  | cons s ss ih =>
    rw [List.forall_mem_cons] at h
    cases ss with
    | nil =>
      rw [List.intercalate_singleton]
      exact pieces_of_forall h.1
    | cons s' ss =>
      rw [List.intercalate_cons_cons, List.append_assoc, List.singleton_append,
        pieces_append_cons_of_forall h.1 hsep, ih (List.cons_ne_nil _ _) h.2]

end Joined

theorem beq_eq_false_of_notMem {sep : Char} {s : List Char} (h : sep ∉ s) :
    ∀ c ∈ s, (c == sep) = false :=
  fun _ hc ↦ beq_eq_false_iff_ne.2 fun hcs ↦ h (hcs ▸ hc)

theorem bne_of_notMem {sep : Char} {s : List Char} (h : sep ∉ s) : ∀ c ∈ s, (c != sep) = true :=
  fun _ hc ↦ bne_iff_ne.2 (ne_of_mem_of_not_mem hc h)

theorem takeWhile_bne_of_notMem {sep : Char} {s : List Char} (h : sep ∉ s) :
    s.takeWhile (· != sep) = s :=
  List.takeWhile_eq_self_iff.2 (bne_of_notMem h)

/-- What stands in front of the first separator. -/
theorem takeWhile_bne_append_cons {sep : Char} {s : List Char} (h : sep ∉ s) (r : List Char) :
    (s ++ sep :: r).takeWhile (· != sep) = s := by
  rw [List.takeWhile_append_of_pos (bne_of_notMem h), List.takeWhile_cons_of_neg (by simp),
    List.append_nil]

theorem pieces_of_notMem {sep : Char} {s : List Char} (h : sep ∉ s) :
    pieces (· == sep) s = [s] :=
  pieces_of_forall (beq_eq_false_of_notMem h)

/-- The pieces on the two sides of a separator, whatever other separators there are. -/
theorem pieces_append_sep (sep : Char) (s r : List Char) :
    pieces (· == sep) (s ++ sep :: r) = pieces (· == sep) s ++ pieces (· == sep) r := by
  induction s with
  | nil => simp [pieces]
  | cons c s ih =>
    rw [List.cons_append, pieces, pieces, ih]
    split
    · rfl
    · cases hs : pieces (· == sep) s with
      | nil => exact absurd hs (pieces_ne_nil _ _)
      | cons w ws => rfl

/-- Texts without a separator are the pieces of what they are joined to. -/
theorem pieces_intercalate {sep : Char} {ss : List (List Char)} (hne : ss ≠ [])
    (h : ∀ s ∈ ss, sep ∉ s) : pieces (· == sep) ([sep].intercalate ss) = ss :=
  pieces_intercalate_of_forall (p := (· == sep)) (beq_self_eq_true sep) hne fun s hs ↦
    beq_eq_false_of_notMem (h s hs)

theorem intercalate_cons_of_ne_nil {sep s : List Char} {ss : List (List Char)} (h : ss ≠ []) :
    sep.intercalate (s :: ss) = s ++ (sep ++ sep.intercalate ss) := by
  obtain ⟨s', ss, rfl⟩ := List.exists_cons_of_ne_nil h
  rw [List.intercalate_cons_cons, List.append_assoc]

/-- A character in front of the first text is one in front of the joined texts. -/
theorem intercalate_head_cons (sep : List Char) (c : Char) (s : List Char) (ss : List (List Char)) :
    sep.intercalate ((c :: s) :: ss) = c :: sep.intercalate (s :: ss) := by
  rcases ss with _ | ⟨s', ss⟩
  · rw [List.intercalate_singleton, List.intercalate_singleton]
  · rw [List.intercalate_cons_cons, List.intercalate_cons_cons]
    rfl

/-- What holds of the characters of a separator and of texts holds of the texts joined by it. -/
theorem forall_mem_intercalate {sep : List Char} {ss : List (List Char)} {p : Char → Prop}
    (hsep : ∀ c ∈ sep, p c) (hss : ∀ s ∈ ss, ∀ c ∈ s, p c) : ∀ c ∈ sep.intercalate ss, p c := by
  induction ss with
  | nil => simp
  | cons s ss ih =>
    have hs := hss s List.mem_cons_self
    cases ss with
    | nil => rwa [List.intercalate_singleton]
    | cons s' ss =>
      rw [List.intercalate_cons_cons, List.forall_mem_append, List.forall_mem_append]
      exact ⟨⟨hs, hsep⟩, ih fun x hx ↦ hss x (List.mem_cons_of_mem s hx)⟩

theorem map_intercalate (f : Char → Char) (sep : List Char) (ss : List (List Char)) :
    (sep.intercalate ss).map f = (sep.map f).intercalate (ss.map (List.map f)) := by
  induction ss with
  | nil => rfl
  | cons s ss ih =>
    cases ss with
    | nil => simp
    | cons s' ss =>
      rw [List.map_cons] at ih
      rw [List.intercalate_cons_cons, List.map_append, List.map_append, ih, List.map_cons,
        List.map_cons, List.intercalate_cons_cons]

theorem splitFirst?_append_cons {sep : Char} {s : List Char} (h : sep ∉ s) (r : List Char) :
    splitFirst? sep (s ++ sep :: r) = some (s, r) := by
  induction s with
  | nil => rw [List.nil_append, splitFirst?, if_pos rfl]
  | cons c s ih =>
    rw [List.mem_cons, not_or] at h
    rw [List.cons_append, splitFirst?, if_neg (Ne.symm h.1), ih h.2]
    rfl

theorem splitFirst?_of_notMem {sep : Char} {s : List Char} (h : sep ∉ s) :
    splitFirst? sep s = none := by
  induction s with
  | nil => rfl
  | cons c s ih =>
    rw [List.mem_cons, not_or] at h
    rw [splitFirst?, if_neg (Ne.symm h.1), ih h.2]
    rfl

/-- A text is its two parts around the separator that it is cut at. -/
theorem eq_of_splitFirst? {sep : Char} {s a b : List Char} (h : splitFirst? sep s = some (a, b)) :
    s = a ++ sep :: b := by
  by_cases hs : sep ∈ s
  · obtain ⟨u, v, rfl, hu⟩ := List.eq_append_cons_of_mem hs
    rw [splitFirst?_append_cons hu] at h
    obtain ⟨rfl, rfl⟩ := Prod.mk.inj (Option.some.inj h)
    rfl
  · rw [splitFirst?_of_notMem hs] at h
    cases h

/-- A text is what was stripped off and what follows it. -/
theorem strip?_eq_some {start s rest : List Char} (h : strip? start s = some rest) :
    s = start ++ rest := by
  induction start generalizing s with
  | nil => exact Option.some.inj h
  | cons a start ih =>
    cases s with
    | nil => cases h
    | cons c s =>
      rw [strip?] at h
      split at h
      · next hc => rw [hc, ih h, List.cons_append]
      · cases h

theorem strip?_append (start s : List Char) : strip? start (start ++ s) = some s := by
  induction start with
  | nil => rfl
  | cons c start ih => rw [List.cons_append, strip?, if_pos rfl, ih]

/-! ### Replacing -/

theorem replaceFrom_append {w : List Char} (old new s : List Char) :
    replaceFrom old new w.length (w ++ s) = replaceFrom old new 0 s := by
  induction w with
  | nil => rfl
  | cons c w ih => rw [List.length_cons, List.cons_append, replaceFrom, ih]

/-- A text stays as it is in front of which nothing can be replaced. -/
theorem replaceFrom_append_of_notMem {a : Char} {old s : List Char} (h : a ∉ s)
    (new r : List Char) : replaceFrom (a :: old) new 0 (s ++ r) =
      s ++ replaceFrom (a :: old) new 0 r := by
  induction s with
  | nil => rfl
  | cons c s ih =>
    rw [List.mem_cons, not_or] at h
    have hprefix : (a :: old).isPrefixOf (c :: (s ++ r)) = false := by
      rw [List.isPrefixOf_cons_cons, beq_eq_false_iff_ne.2 h.1, Bool.false_and]
    rw [List.cons_append, replaceFrom, hprefix, if_neg (by decide), ih h.2]
    rfl

/-- **An only occurrence is replaced**, and the texts around it stay. -/
theorem replaceAll_append_append {a : Char} {old before behind : List Char} (hbefore : a ∉ before)
    (hbehind : a ∉ behind) (new : List Char) :
    replaceAll (a :: old) new (before ++ (a :: old ++ behind)) = before ++ (new ++ behind) := by
  have hprefix : (a :: old).isPrefixOf (a :: (old ++ behind)) = true :=
    List.isPrefixOf_iff_prefix.2 ⟨behind, rfl⟩
  have hend : replaceFrom (a :: old) new 0 behind = behind := by
    have hkeep : replaceFrom (a :: old) new 0 (behind ++ []) =
        behind ++ replaceFrom (a :: old) new 0 [] :=
      replaceFrom_append_of_notMem hbehind new []
    rwa [List.append_nil, replaceFrom, List.append_nil] at hkeep
  rw [replaceAll, replaceFrom_append_of_notMem hbefore, List.cons_append, replaceFrom, hprefix,
    if_pos rfl, List.length_cons, Nat.add_sub_cancel, replaceFrom_append, hend]

end Unscramble.Text

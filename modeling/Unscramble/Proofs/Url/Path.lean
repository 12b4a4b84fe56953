import Mathlib.Data.List.Infix
import Unscramble.Proofs.Text.Split
import Unscramble.Proofs.Url.Escape
import Unscramble.Url.Path

/-!
# A path is read again

Walking through the segments of a path leaves segments that are escaped, have no slash in them and
neither stay nor go back. So walking through them again leaves all of them where they are, and they
are what the written path is cut into at its slashes. The one thing to see is that escaping does not
make a segment go back: it writes no triplet of a full stop.

The paths of files are left out, as they have rules of their own for the names of drives.

## Main definitions

* `IsSegment`: a segment that is walked through without a change.

## Main statements

* `isSegment_of_mem_walk`: what is left of a walk.
* `walk_of_forall`: what is left is walked through without a change.
* `rawSegmentsAfterSlash_flatMap`: a written path is cut into its segments.
-/

namespace Unscramble.Url

open Unscramble.Text

namespace Path

/-! ### Full stops -/

/-- Whether a triplet of a text in lower case can only be that of a full stop. -/
def hasOnlyStops (s : List Char) : Bool :=
  s.tails.all fun t ↦
    match t with
    | '%' :: x :: y :: _ => x == '2' && y == 'e'
    | _ => true

/-- The segments that stay or go back, in lower case. -/
def dotSegments : List (List Char) :=
  ["..", ".%2e", "%2e.", "%2e%2e", ".", "%2e"].map String.toList

theorem mem_dotSegments {s : List Char} (h : goesBack s = true ∨ staysHere s = true) :
    s.map Char.toLower ∈ dotSegments := by
  have hlower : (String.ofList s).toLower.toList = s.map Char.toLower := by
    show ((String.ofList s).map Char.toLower).toList = s.map Char.toLower
    simp
  rw [← hlower]
  refine List.mem_map_of_mem ?_
  rw [goesBack, staysHere, List.contains_iff_mem, List.contains_iff_mem] at h
  simp only [List.mem_cons, List.not_mem_nil, or_false] at h ⊢
  tauto

/-- A segment without full stops and triplets neither stays nor goes back. -/
theorem not_dots_of_notMem {s : List Char} (hstop : '.' ∉ s) (hmark : '%' ∉ s) :
    ¬ (goesBack s = true ∨ staysHere s = true) := by
  intro h
  have hall : dotSegments.all (fun t ↦ t.contains '.' || t.contains '%') = true := by decide
  have hlower {c d : Char} (hd : ∀ n < 0x80, (Char.ofNat n).toLower = d → Char.ofNat n = d)
      (hascii : d.toNat < 0x80) (hc : c.toLower = d) : c = d :=
    forall_of_toLower (P := fun c ↦ c.toLower = d → c = d) hd (hc ▸ hascii) hc
  have hmem := List.all_eq_true.1 hall _ (mem_dotSegments h)
  rw [Bool.or_eq_true, List.contains_iff_mem, List.contains_iff_mem, List.mem_map,
    List.mem_map] at hmem
  rcases hmem with ⟨c, hc, heq⟩ | ⟨c, hc, heq⟩
  · exact hstop (hlower (by decide) (by decide) heq ▸ hc)
  · exact hmark (hlower (by decide) (by decide) heq ▸ hc)

/-- Segments that stay or go back have no other triplets. -/
theorem hasOnlyStops_toLower {s : List Char} (h : goesBack s = true ∨ staysHere s = true) :
    hasOnlyStops (s.map Char.toLower) = true := by
  have hall : dotSegments.all hasOnlyStops = true := by decide
  exact List.all_eq_true.1 hall _ (mem_dotSegments h)

/-- A triplet in a segment that stays or goes back is that of a plain byte. -/
theorem isPlain_of_triplet {before behind : List Char} {b : UInt8}
    (h : goesBack (before ++ (Percent.triplet b ++ behind)) = true ∨
      staysHere (before ++ (Percent.triplet b ++ behind)) = true) :
    Escape.isPlain Escape.inPath b = true := by
  have hbytes : ∀ n < 256, ((Hex.upperDigit (n.toUInt8.toNat / 16)).toLower == '2' &&
      (Hex.upperDigit (n.toUInt8.toNat % 16)).toLower == 'e') = true →
        Escape.isPlain Escape.inPath n.toUInt8 = true := by
    decide +kernel
  have hstops := hasOnlyStops_toLower h
  rw [List.map_append] at hstops
  refine forall_byte (P := fun b ↦ ((Hex.upperDigit (b.toNat / 16)).toLower == '2' &&
    (Hex.upperDigit (b.toNat % 16)).toLower == 'e') = true →
      Escape.isPlain Escape.inPath b = true) hbytes b ?_
  exact List.all_eq_true.1 hstops ((Percent.triplet b ++ behind).map Char.toLower)
    ((List.mem_tails _ _).2 (List.suffix_append _ _))

/-- **Escaping does not make a segment stay or go back.** -/
theorem of_escape {s : List Char} (h : goesBack (Escape.escape Escape.inPath s) = true ∨
    staysHere (Escape.escape Escape.inPath s) = true) : goesBack s = true ∨ staysHere s = true := by
  by_cases hs : Escape.IsEscaped Escape.inPath s
  · rwa [Escape.escape_of_isEscaped hs] at h
  · obtain ⟨before, b, behind, hplain, hescape⟩ := Escape.exists_triplet_of_not_isEscaped hs
    rw [hescape] at h
    rw [isPlain_of_triplet h] at hplain
    cases hplain

/-! ### Segments -/

/-- A segment that is walked through without a change. -/
structure IsSegment (layout : Layout) (s : List Char) : Prop where
  isEscaped : Escape.IsEscaped Escape.inPath s
  isSlash_eq : ∀ c ∈ s, layout.isSlash c = false
  not_dots : ¬ (goesBack s = true ∨ staysHere s = true)

variable {layout : Layout}

theorem isSegment_nil (layout : Layout) : IsSegment layout [] where
  isEscaped := Escape.isEscaped_nil _
  isSlash_eq _ hc := absurd hc List.not_mem_nil
  not_dots := by decide +kernel

/-- A raw segment that neither stays nor goes back is one when it is escaped. -/
theorem isSegment_escape {s : List Char} (hslash : ∀ c ∈ s, layout.isSlash c = false)
    (h : ¬ (goesBack s = true ∨ staysHere s = true)) :
    IsSegment layout (Escape.escape Escape.inPath s) where
  isEscaped := Escape.isEscaped_escape (by decide) s
  isSlash_eq c hc := by
    rcases Escape.mem_of_mem_escape hc with hc | hc
    · exact hslash c hc
    · have hall : Escape.tripletChars.all (fun c ↦ !(c == '/') && !(c == '\\')) = true := by decide
      have := List.all_eq_true.1 hall c hc
      simp only [Bool.and_eq_true, Bool.not_eq_true'] at this
      rw [Layout.isSlash, this.1, this.2, Bool.false_and, Bool.false_or]
  not_dots hdots := h (of_escape hdots)

/-! ### Walks -/

theorem mem_of_mem_back {s : List Char} {done : List (List Char)} (h : s ∈ back done) :
    s ∈ done := by
  cases done with
  | nil => exact h
  | cons d done =>
    rw [back] at h
    split at h
    · exact h
    · exact List.mem_cons_of_mem d h

theorem forward_eq (hlayout : layout ≠ .file) (done : List (List Char)) (s : List Char) :
    forward layout done s = Escape.escape Escape.inPath s :: done :=
  if_neg fun h ↦ hlayout h.1

/-- **What is left of a walk** is segments that another walk does not change. -/
theorem isSegment_of_mem_walk (hlayout : layout ≠ .file) {raw done : List (List Char)}
    (hraw : ∀ s ∈ raw, ∀ c ∈ s, layout.isSlash c = false) (hdone : ∀ s ∈ done, IsSegment layout s) :
    ∀ s ∈ walk layout done raw, IsSegment layout s := by
  induction raw generalizing done with
  | nil => exact hdone
  | cons s raw ih =>
    rw [List.forall_mem_cons] at hraw
    have hsettle {d : List (List Char)} (hd : ∀ s ∈ d, IsSegment layout s) :
        ∀ s ∈ if raw.isEmpty then [] :: d else d, IsSegment layout s := by
      split
      · exact List.forall_mem_cons.2 ⟨isSegment_nil layout, hd⟩
      · exact hd
    rw [walk]
    dsimp only
    split
    · exact ih hraw.2 (hsettle fun s hs ↦ hdone s (mem_of_mem_back hs))
    · next hback =>
      split
      · exact ih hraw.2 (hsettle hdone)
      · next hstays =>
        rw [forward_eq hlayout]
        refine ih hraw.2 (List.forall_mem_cons.2 ⟨isSegment_escape hraw.1 ?_, hdone⟩)
        exact not_or.2 ⟨hback, hstays⟩

/-- A walk leaves at least one segment. -/
theorem walk_ne_nil (hlayout : layout ≠ .file) {raw : List (List Char)} (hraw : raw ≠ [])
    (done : List (List Char)) : walk layout done raw ≠ [] := by
  induction raw generalizing done with
  | nil => exact absurd rfl hraw
  | cons s raw ih =>
    rw [walk]
    dsimp only
    cases raw with
    | nil =>
      split
      · exact List.cons_ne_nil _ _
      · split
        · exact List.cons_ne_nil _ _
        · rw [forward_eq hlayout]
          exact List.cons_ne_nil _ _
    | cons t raw =>
      have hne : t :: raw ≠ [] := List.cons_ne_nil _ _
      split
      · exact ih hne _
      · split
        · exact ih hne _
        · exact ih hne _

/-- Segments that neither stay nor go back are escaped. -/
theorem walk_of_not_dots (hlayout : layout ≠ .file) {raw : List (List Char)}
    (h : ∀ s ∈ raw, ¬ (goesBack s = true ∨ staysHere s = true)) (done : List (List Char)) :
    walk layout done raw = (raw.map (Escape.escape Escape.inPath)).reverse ++ done := by
  induction raw generalizing done with
  | nil => rfl
  | cons s raw ih =>
    rw [List.forall_mem_cons] at h
    obtain ⟨hback, hstays⟩ := not_or.1 h.1
    rw [walk]
    dsimp only
    rw [if_neg hback, if_neg hstays, forward_eq hlayout, ih h.2, List.map_cons, List.reverse_cons,
      List.append_assoc, List.singleton_append]

/-- **Segments that are left of a walk are walked through without a change.** -/
theorem walk_of_forall (hlayout : layout ≠ .file) {segments : List (List Char)}
    (h : ∀ s ∈ segments, IsSegment layout s) (done : List (List Char)) :
    walk layout done segments = segments.reverse ++ done := by
  have hescape : segments.map (Escape.escape Escape.inPath) = segments :=
    (List.map_congr_left fun s hs ↦ Escape.escape_of_isEscaped (h s hs).isEscaped).trans
      (List.map_id _)
  rw [walk_of_not_dots hlayout fun s hs ↦ (h s hs).not_dots, hescape]

theorem ofSegments_eq (hlayout : layout ≠ .file) (raw : List (List Char)) :
    ofSegments layout raw = .divided (walk layout [] raw).reverse := by
  rw [ofSegments, if_neg hlayout]

/-- **A path is its segments, escaped**, if none of them stays or goes back. -/
theorem ofSegments_of_not_dots (hlayout : layout ≠ .file) {raw : List (List Char)}
    (h : ∀ s ∈ raw, ¬ (goesBack s = true ∨ staysHere s = true)) :
    ofSegments layout raw = .divided (raw.map (Escape.escape Escape.inPath)) := by
  rw [ofSegments_eq hlayout, walk_of_not_dots hlayout h, List.append_nil, List.reverse_reverse]

/-- The path of segments that are left of a walk. -/
theorem ofSegments_of_forall (hlayout : layout ≠ .file) {segments : List (List Char)}
    (h : ∀ s ∈ segments, IsSegment layout s) : ofSegments layout segments = .divided segments := by
  rw [ofSegments_eq hlayout, walk_of_forall hlayout h, List.append_nil, List.reverse_reverse]

/-- **The path that raw segments stand for** has at least one segment, and only such that another
walk does not change. -/
theorem exists_of_ofSegments (hlayout : layout ≠ .file) {raw : List (List Char)} (hraw : raw ≠ [])
    (hslash : ∀ s ∈ raw, ∀ c ∈ s, layout.isSlash c = false) :
    ∃ segments, ofSegments layout raw = .divided segments ∧ segments ≠ [] ∧
      ∀ s ∈ segments, IsSegment layout s := by
  refine ⟨_, ofSegments_eq hlayout raw, ?_, fun s hs ↦ ?_⟩
  · rw [Ne, List.reverse_eq_nil_iff]
    exact walk_ne_nil hlayout hraw []
  · exact isSegment_of_mem_walk hlayout hslash (fun s hs ↦ absurd hs List.not_mem_nil) s
      (List.mem_reverse.1 hs)

/-! ### Written paths -/

theorem flatMap_cons_eq {segments : List (List Char)} (hne : segments ≠ []) :
    segments.flatMap ('/' :: ·) = '/' :: ['/'].intercalate segments := by
  induction segments with
  | nil => exact absurd rfl hne
  | cons s segments ih =>
    cases segments with
    | nil => rw [List.flatMap_singleton, List.intercalate_singleton]
    | cons t segments =>
      rw [List.flatMap_cons, ih (List.cons_ne_nil t segments), List.intercalate_cons_cons,
        List.append_assoc, List.singleton_append, List.cons_append]

end Path

theorem isSlash_slash (layout : Layout) : layout.isSlash '/' = true := by
  cases layout <;> rfl

/-- The raw segments of a text have no slash in them, and there is at least one. -/
theorem rawSegmentsAfterSlash_spec (layout : Layout) (s : List Char) :
    rawSegmentsAfterSlash layout s ≠ [] ∧
      ∀ w ∈ rawSegmentsAfterSlash layout s, ∀ c ∈ w, layout.isSlash c = false := by
  rcases s with - | ⟨c, s⟩
  · exact ⟨pieces_ne_nil _ _, fun w hw c hc ↦ (of_mem_pieces hw hc).2⟩
  · exact ⟨pieces_ne_nil _ _, fun w hw c hc ↦ (of_mem_pieces hw hc).2⟩

/-- **A written path is cut into its segments.** -/
theorem rawSegmentsAfterSlash_flatMap {layout : Layout} {segments : List (List Char)}
    (hne : segments ≠ []) (h : ∀ s ∈ segments, ∀ c ∈ s, layout.isSlash c = false) :
    rawSegmentsAfterSlash layout (segments.flatMap ('/' :: ·)) = segments := by
  rw [Path.flatMap_cons_eq hne, rawSegmentsAfterSlash, isSlash_slash, if_pos rfl, rawSegments,
    pieces_intercalate_of_forall (isSlash_slash layout) hne h]

end Unscramble.Url

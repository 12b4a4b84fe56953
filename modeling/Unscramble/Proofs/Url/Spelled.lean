import Unscramble.Proofs.Url.Query
import Unscramble.Proofs.Url.Reader

/-!
# URLs as they are spelled

A URL may be spelled in more ways than it is written. White space around it and control characters
are passed over, and letters of the scheme and of the host count as those in lower case. What is
passed over lies in front of the scheme and behind the path, so it can change no part but the query
and the fragment; and a query without such characters says what it says.

A text is taken as a `front`, which has no character that is passed over, and the query and the
fragment behind it. Both ways to pass over characters keep this shape.

## Main definitions

* `isKept`: a character that is passed over nowhere.
* `PassesOver`: what passing over characters does to a text.
* `IsSpelled`: a scheme, a host and a path as they may be spelled.

## Main statements

* `exists_clean_trim`: the front stays when white space and control characters are dropped.
* `Host.ofDomain_map_toLower`: upper case in a host does not matter.
* `IsSpelled.exists_read`: a URL is read as it is spelled.
-/

namespace Unscramble

open Unscramble.Text

namespace Url

/-! ### What is passed over -/

/-- A character that is neither white space nor a control character. -/
def isKept (c : Char) : Bool :=
  ' ' < c && !isBlank c

/-- What passing over characters makes of a text is a part of it, and all of it if there are no such
characters in it. -/
structure PassesOver (f : List Char → List Char) : Prop where
  sublist : ∀ s, (f s).Sublist s
  eq_self : ∀ s, (∀ c ∈ s, isKept c = true) → f s = s

theorem passesOver_id : PassesOver id where
  sublist s := List.Sublist.refl s
  eq_self _ _ := rfl

theorem PassesOver.comp {f g : List Char → List Char} (hg : PassesOver g) (hf : PassesOver f) :
    PassesOver (g ∘ f) where
  sublist s := (hg.sublist (f s)).trans (hf.sublist s)
  eq_self s hs := by rw [Function.comp_apply, hf.eq_self s hs, hg.eq_self s hs]

theorem passesOver_rdropWhile {p : Char → Bool} (hp : ∀ c, isKept c = true → p c = false) :
    PassesOver (List.rdropWhile p) where
  sublist s := by
    have h := List.rdropWhile_prefix p s
    exact h.sublist
  eq_self _ hs := List.rdropWhile_eq_self_iff.2 fun hne ↦ by
    simp [hp _ (hs _ (List.getLast_mem hne))]

theorem passesOver_filter {p : Char → Bool} (hp : ∀ c, isKept c = true → p c = true) :
    PassesOver (List.filter p) where
  sublist _ := List.filter_sublist
  eq_self _ hs := List.filter_eq_self.2 fun c hc ↦ hp c (hs c hc)

/-- A character that does not break off a line, and no tab. -/
def isUnbroken (c : Char) : Bool :=
  c != '\t' && c != '\n' && c != '\r'

theorem clean_eq (s : List Char) :
    clean s = ((s.dropWhile (· ≤ ' ')).rdropWhile (· ≤ ' ')).filter isUnbroken := rfl

theorem optional_filter {p : Char → Bool} {c : Char} (hc : p c = true)
    (part : Option (List Char)) :
    (optional c part).filter p = optional c (part.map (List.filter p)) := by
  cases part with
  | none => rfl
  | some part => exact List.filter_cons_of_pos hc

section Front

variable {front : List Char} (hne : front ≠ []) (hfront : ∀ c ∈ front, isKept c = true)
include hne hfront

/-- **The front stays** when characters are dropped at the two ends of a text. -/
theorem exists_rdropWhile {p : Char → Bool} (hp : ∀ c, isKept c = true → p c = false)
    {before after : List Char} (hbefore : ∀ c ∈ before, p c = true)
    (hafter : ∀ c ∈ after, p c = true) (query fragment : Option (List Char)) :
    ∃ f fragment', PassesOver f ∧
      ((before ++ (front ++ optional '?' query ++ optional '#' fragment ++ after)).dropWhile
        p).rdropWhile p = front ++ optional '?' (query.map f) ++ optional '#' fragment' := by
  have hleft : (before ++ (front ++ optional '?' query ++ optional '#' fragment ++ after)).dropWhile
      p = front ++ optional '?' query ++ optional '#' fragment ++ after := by
    obtain ⟨c, r, rfl⟩ := List.exists_cons_of_ne_nil hne
    rw [List.dropWhile_append_of_pos hbefore]
    exact List.dropWhile_cons_of_neg (by simp [hp c (hfront c List.mem_cons_self)])
  rw [hleft]
  cases fragment with
  | some fragment =>
    refine ⟨id, some ((fragment ++ after).rdropWhile p), passesOver_id, ?_⟩
    rw [Option.map_id, id]
    show (front ++ optional '?' query ++ '#' :: fragment ++ after).rdropWhile p = _
    rw [List.append_assoc _ (_ :: _), List.cons_append, rdropWhile_append_cons (hp '#' (by decide))]
    rfl
  | none =>
    refine ⟨List.rdropWhile p, none, passesOver_rdropWhile hp, ?_⟩
    have hnone : optional '#' none = [] := rfl
    rw [hnone, List.append_nil, rdropWhile_append_of_forall hafter, List.append_nil]
    cases query with
    | some query => exact rdropWhile_append_cons (hp '?' (by decide)) front query
    | none =>
      show (front ++ []).rdropWhile p = front ++ []
      rw [List.append_nil]
      exact (passesOver_rdropWhile hp).eq_self front hfront

/-- **The front stays** when white space around a text is dropped, and what is passed over in a
URL. -/
theorem exists_clean_trim {before after : List Char} (hbefore : before.all isBlank = true)
    (hafter : after.all isBlank = true) (query fragment : Option (List Char)) :
    ∃ f fragment', PassesOver f ∧
      clean (trim (before ++ (front ++ optional '?' query ++ optional '#' fragment ++ after))) =
        front ++ optional '?' (query.map f) ++ optional '#' fragment' := by
  have hblank : ∀ c, isKept c = true → isBlank c = false := fun c hc ↦ by
    rw [isKept, Bool.and_eq_true] at hc
    simpa using hc.2
  have hcontrol : ∀ c, isKept c = true → decide (c ≤ ' ') = false := fun c hc ↦ by
    rw [isKept, Bool.and_eq_true, decide_eq_true_iff] at hc
    exact decide_eq_false (Char.not_le.2 hc.1)
  have hinner : ∀ c, isKept c = true → isUnbroken c = true := by
    intro c hc
    have hlt := hcontrol c hc
    simp only [isUnbroken, Bool.and_eq_true, bne_iff_ne]
    refine ⟨⟨?_, ?_⟩, ?_⟩ <;> rintro rfl <;> revert hlt <;> decide
  have hfilter := passesOver_filter hinner
  obtain ⟨f, middle, hf, htrim⟩ := exists_rdropWhile hne hfront hblank
    (List.all_eq_true.1 hbefore) (List.all_eq_true.1 hafter) query fragment
  have hnil : ∀ c ∈ ([] : List Char), decide (c ≤ ' ') = true := by simp
  obtain ⟨g, fragment', hg, hclean⟩ := exists_rdropWhile hne hfront hcontrol hnil hnil
    (query.map f) middle
  rw [List.nil_append, List.append_nil] at hclean
  refine ⟨_, fragment'.map (List.filter isUnbroken), (hfilter.comp hg).comp hf, ?_⟩
  show clean (List.rdropWhile isBlank (List.dropWhile isBlank _)) = _
  rw [htrim, clean_eq, hclean, List.filter_append, List.filter_append,
    hfilter.eq_self front hfront, optional_filter (by decide), optional_filter (by decide),
    Option.map_map, Option.map_map]

end Front

/-! ### Letter case -/

namespace Domain

theorem fold?_toLower {c : Char} (h : c.toNat < 0x80) : fold? c.toLower = fold? c := by
  have hall : ∀ n < 0x80, fold? (Char.ofNat n).toLower = fold? (Char.ofNat n) := by
    decide +kernel
  exact forall_ascii (P := fun c ↦ fold? c.toLower = fold? c) hall h

/-- The letter case of a name does not matter. -/
theorem ofText?_map_toLower {s : List Char} (h : ∀ c ∈ s, c.toNat < 0x80) :
    ofText? (s.map Char.toLower) = ofText? s := by
  have hfold : (s.map Char.toLower).mapM fold? = s.mapM fold? := by
    induction s with
    | nil => rfl
    | cons c s ih =>
      rw [List.forall_mem_cons] at h
      rw [List.map_cons, List.mapM_cons, List.mapM_cons, fold?_toLower h.1, ih h.2]
  rw [ofText?, ofText?, hfold]

end Domain

/-- **The letter case of a host does not matter.** -/
theorem Host.ofDomain_map_toLower {s : List Char}
    (h : ∀ c ∈ s, c.toNat < 0x80 ∧ c ≠ '%' ∧ c ≠ '[') :
    ofDomain (s.map Char.toLower) = ofDomain s := by
  have hlower {d : Char} (hd : ∀ n < 0x80, (Char.ofNat n).toLower = d → Char.ofNat n = d)
      (hs : d ∉ s) : d ∉ s.map Char.toLower := by
    intro hm
    obtain ⟨c, hc, heq⟩ := List.mem_map.1 hm
    exact hs (forall_ascii (P := fun c ↦ c.toLower = d → c = d) hd (h c hc).1 heq ▸ hc)
  have hpercent : '%' ∉ s := fun hm ↦ (h '%' hm).2.1 rfl
  have hbracket : '[' ∉ s := fun hm ↦ (h '[' hm).2.2 rfl
  rw [ofDomain, ofDomain, bracketed?_of_notMem (hlower (by decide) hbracket),
    bracketed?_of_notMem hbracket, Domain.read?_of_notMem (hlower (by decide) hpercent),
    Domain.read?_of_notMem hpercent, Domain.ofText?_map_toLower fun c hc ↦ (h c hc).1]

/-! ### URLs -/

/-- A scheme of the web, a host with a name and the segments of a path, as they may be spelled. -/
structure IsSpelled (scheme host : List Char) (segments : List (List Char)) : Prop where
  scheme : Layout.of (scheme.map Char.toLower) = .web
  host : Host.ofDomain (host.map Char.toLower) = .ok (.name (host.map Char.toLower))
  segments_ne_nil : segments ≠ []
  chars : ∀ s ∈ segments, ∀ c ∈ s, isKept c = true ∧ c ∉ ['#', '/', '?', '\\']
  not_dots : ∀ s ∈ segments, ¬ (Path.goesBack s = true ∨ Path.staysHere s = true)

/-- A host and a path behind two slashes. -/
def placeText (host : List Char) (segments : List (List Char)) : List Char :=
  '/' :: '/' :: (host ++ segments.flatMap ('/' :: ·))

namespace IsSpelled

variable {scheme host : List Char} {segments : List (List Char)}
  (h : IsSpelled scheme host segments)
include h

/-- The characters of the scheme are kept. -/
theorem isKept_of_mem_scheme : ∀ c ∈ scheme, isKept c = true := by
  have hascii : ∀ n < 0x80, Escape.isPlainChar [' '] (Char.ofNat n).toLower = true →
      isKept (Char.ofNat n) = true := by
    decide +kernel
  intro c hc
  have hplain := isEscaped_scheme h.scheme _ (List.mem_map_of_mem hc)
  exact forall_of_toLower (P := fun c ↦ Escape.isPlainChar [' '] c.toLower = true →
    isKept c = true) hascii ((Escape.toNat_bounds_of_isPlainChar hplain).2.trans_lt (by decide))
      hplain

/-- The characters of the host are kept, and delimit nothing. -/
theorem of_mem_host : ∀ c ∈ host, isKept c = true ∧
    Escape.isPlainChar (delimiters ++ ['%', ':', '@', '[', ']']) c = true := by
  have hascii : ∀ n < 0x80, Escape.isPlainChar (delimiters ++ ['%', ':', '@', '[', ']'])
      (Char.ofNat n).toLower = true → isKept (Char.ofNat n) = true ∧
        Escape.isPlainChar (delimiters ++ ['%', ':', '@', '[', ']']) (Char.ofNat n) = true := by
    decide +kernel
  obtain ⟨-, -, s, hs⟩ := Host.isRead_of_ofDomain h.host
  intro c hc
  have hplain := (Domain.isFolded_of_read? hs).isEscaped _ (List.mem_map_of_mem hc)
  exact forall_of_toLower (P := fun c ↦ Escape.isPlainChar (delimiters ++ ['%', ':', '@', '[', ']'])
    c.toLower = true → isKept c = true ∧
      Escape.isPlainChar (delimiters ++ ['%', ':', '@', '[', ']']) c = true) hascii
        ((Escape.toNat_bounds_of_isPlainChar hplain).2.trans_lt (by decide)) hplain

theorem ne_of_mem_host {c d : Char} (hc : c ∈ host)
    (hd : d ∈ delimiters ++ ['%', ':', '@', '[', ']']) : c ≠ d :=
  Escape.ne_of_isPlainChar (h.of_mem_host c hc).2 hd

theorem host_ne_nil : host ≠ [] := by
  rintro rfl
  exact (Host.isRead_of_ofDomain h.host).1 rfl

theorem ofDomain_host : Host.ofDomain host = .ok (.name (host.map Char.toLower)) := by
  rw [← h.host, Host.ofDomain_map_toLower fun c hc ↦ ⟨?_, h.ne_of_mem_host hc (by decide),
    h.ne_of_mem_host hc (by decide)⟩]
  exact (Escape.toNat_bounds_of_isPlainChar (h.of_mem_host c hc).2).2.trans_lt (by decide)

/-- The characters behind the scheme are kept, and begin neither a query nor a fragment. -/
theorem of_mem_placeText : ∀ c ∈ placeText host segments, isKept c = true ∧ c ≠ '#' ∧ c ≠ '?' := by
  have hpath : ∀ c ∈ segments.flatMap ('/' :: ·), isKept c = true ∧ c ≠ '#' ∧ c ≠ '?' := by
    intro c hc
    obtain ⟨s, hs, hc⟩ := List.mem_flatMap.1 hc
    rcases List.mem_cons.1 hc with rfl | hc
    · decide
    · obtain ⟨hkept, hnot⟩ := h.chars s hs c hc
      refine ⟨hkept, ?_, ?_⟩ <;> rintro rfl <;> revert hnot <;> decide
  simp only [placeText, List.forall_mem_cons, List.forall_mem_append]
  exact ⟨by decide, by decide, fun c hc ↦ ⟨(h.of_mem_host c hc).1,
    h.ne_of_mem_host hc (by decide), h.ne_of_mem_host hc (by decide)⟩, hpath⟩

/-- The host and the path are read. -/
theorem readBody_placeText (closed : Bool) :
    readBody (scheme.map Char.toLower) closed (placeText host segments) =
      .ok (some ⟨[], [], .name (host.map Char.toLower), none⟩,
        .divided (segments.map (Escape.escape Escape.inPath))) := by
  have hplace : ∀ c ∈ host, Layout.web.isSlash c = false := fun c hc ↦
    isSlash_eq_false (h.ne_of_mem_host hc (by decide)) (h.ne_of_mem_host hc (by decide))
  have hslash : ∀ c ∈ (segments.flatMap ('/' :: ·)).head?, Layout.web.isSlash c = true := by
    rw [Path.flatMap_cons_eq h.segments_ne_nil]
    rintro c ⟨rfl⟩
    rfl
  have hsegments : ∀ s ∈ segments, ∀ c ∈ s, Layout.web.isSlash c = false := by
    intro s hs c hc
    have hnot := (h.chars s hs c hc).2
    refine isSlash_eq_false ?_ ?_ <;> rintro rfl <;> revert hnot <;> decide
  rw [readBody, h.scheme]
  dsimp only
  rw [placeText, readWeb_slashes h.host_ne_nil hplace hslash,
    readAuthority_of_host h.host_ne_nil fun c hc ↦ ⟨h.ne_of_mem_host hc (by decide),
      h.ne_of_mem_host hc (by decide), h.ne_of_mem_host hc (by decide),
      h.ne_of_mem_host hc (by decide)⟩,
    h.ofDomain_host, rawSegmentsAfterSlash_flatMap h.segments_ne_nil hsegments,
    Path.ofSegments_of_not_dots (by decide) h.not_dots]
  rfl

/-- **A URL is read as it is spelled**: its host in lower case, its path escaped, and the pairs of
its query if nothing in it is passed over. -/
theorem exists_read {before after : List Char} (hbefore : before.all isBlank = true)
    (hafter : after.all isBlank = true) {query : Option (List Char)}
    (hquery : ∀ q ∈ query, '#' ∉ q) (fragment : Option (List Char)) :
    ∃ u, read (trim (before ++ (scheme ++ ':' :: placeText host segments ++ optional '?' query ++
        optional '#' fragment ++ after))) = .ok u ∧
      u.host? = some (host.map Char.toLower) ∧
      u.path = .divided (segments.map (Escape.escape Escape.inPath)) ∧
      ∀ q ∈ query, (∀ c ∈ q, isKept c = true) → u.pairs = Form.decodePairs q := by
  have hfront : ∀ c ∈ scheme ++ ':' :: placeText host segments, isKept c = true := by
    simp only [List.forall_mem_append, List.forall_mem_cons]
    exact ⟨h.isKept_of_mem_scheme, by decide, fun c hc ↦ (h.of_mem_placeText c hc).1⟩
  obtain ⟨f, fragment', hf, hclean⟩ := exists_clean_trim (by simp) hfront hbefore hafter query
    fragment
  have hcut : scheme? (scheme ++ ':' :: placeText host segments ++ optional '?' (query.map f) ++
      optional '#' fragment') = some (scheme.map Char.toLower,
        placeText host segments ++ optional '?' (query.map f) ++ optional '#' fragment') := by
    rw [List.append_assoc, List.append_assoc, List.cons_append,
      scheme?_append_of_map_toLower h.scheme, ← List.append_assoc]
  have hmark : '?' ∉ placeText host segments := fun hm ↦ (h.of_mem_placeText '?' hm).2.2 rfl
  have hhash : '#' ∉ placeText host segments ++ optional '?' (query.map f) := by
    rw [List.mem_append, not_or]
    refine ⟨fun hm ↦ (h.of_mem_placeText '#' hm).2.1 rfl, ?_⟩
    cases query with
    | none => exact List.not_mem_nil
    | some q =>
      refine List.not_mem_cons_of_ne_of_not_mem (by decide) fun hm ↦ ?_
      exact hquery q rfl ((hf.sublist q).subset hm)
  rw [← hclean] at hcut
  rw [read_of_scheme? hcut, cutAt_append_optional hhash, cutAt_append_optional hmark,
    h.readBody_placeText]
  refine ⟨_, rfl, rfl, rfl, ?_⟩
  rintro q rfl hkept
  rw [pairs, Option.map_some, Option.map_some, hf.eq_self q hkept]
  exact Escape.decodePairs_escape (by split <;> decide) q

end IsSpelled

end Url

end Unscramble

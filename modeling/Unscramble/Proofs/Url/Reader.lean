import Unscramble.Proofs.Text.Form
import Unscramble.Proofs.Url.Authority
import Unscramble.Proofs.Url.Path

/-!
# A URL is read again

A URL under a scheme of the web that has been read is written so that it is cut into the same parts
again: scheme, authority, path, query and fragment are written without the characters that end them.
So it is read again as itself, with the one exception that its host may have a label that is too
long to be read; such a URL is refused for its host.

A pair that is added to the query is written with few characters. It changes no other part of the
URL and none of the pairs before it, and a URL with it can be read again exactly if the one without
it can.

## Main definitions

* `IsRead`: a URL under a scheme of the web.
* `isLegible`: a URL that is read again.

## Main statements

* `isRead_of_read`: what is read.
* `IsRead.read_text`: a URL is read again from its written form.
* `extends_append`, `read_text_append`: a pair is added, and read again with the rest.
-/

namespace Unscramble

open Unscramble.Text

namespace Url

/-! ### Schemes -/

/-- The schemes of the web. -/
def webSchemes : List (List Char) :=
  ["http", "https", "ws", "wss", "ftp"].map String.toList

theorem mem_webSchemes {scheme : List Char} (h : Layout.of scheme = .web) :
    scheme ∈ webSchemes := by
  rw [Layout.of] at h
  split at h
  · cases h
  · split at h
    · next hmem =>
      refine List.mem_map.2 ⟨String.ofList scheme, List.contains_iff_mem.1 hmem, ?_⟩
      exact String.toList_ofList
    · cases h

/-- **A scheme of the web is read in any letter case.** -/
theorem scheme?_append_of_map_toLower {scheme : List Char}
    (h : Layout.of (scheme.map Char.toLower) = .web) (r : List Char) :
    scheme? (scheme ++ ':' :: r) = some (scheme.map Char.toLower, r) := by
  have hall : webSchemes.all (fun t ↦ !t.isEmpty && t.all fun c ↦
      decide (c.toNat < 0x80) && c.isLower) = true := by
    decide +kernel
  have hmem := List.all_eq_true.1 hall _ (mem_webSchemes h)
  rw [Bool.and_eq_true, List.all_eq_true] at hmem
  have hchars : ∀ c ∈ scheme, c ≠ ':' ∧ c.isAlpha = true ∧ isSchemeChar c = true := by
    have hascii : ∀ n < 0x80, (Char.ofNat n).toLower.isLower = true → Char.ofNat n ≠ ':' ∧
        (Char.ofNat n).isAlpha = true ∧ isSchemeChar (Char.ofNat n) = true := by
      decide +kernel
    intro c hc
    have hlower := hmem.2 _ (List.mem_map_of_mem hc)
    rw [Bool.and_eq_true, decide_eq_true_iff] at hlower
    exact forall_of_toLower (P := fun c ↦ c.toLower.isLower = true → c ≠ ':' ∧
      c.isAlpha = true ∧ isSchemeChar c = true) hascii hlower.1 hlower.2
  have hcolon : ':' ∉ scheme := fun hm ↦ (hchars ':' hm).1 rfl
  have hhead : scheme.head?.any Char.isAlpha = true := by
    rcases scheme with - | ⟨c, scheme⟩
    · cases hmem.1
    · exact (hchars c List.mem_cons_self).2.1
  have hscheme : scheme.all isSchemeChar = true :=
    List.all_eq_true.2 fun c hc ↦ (hchars c hc).2.2
  rw [scheme?, splitFirst?_append_cons hcolon]
  dsimp only
  rw [hhead, hscheme]
  rfl

/-- **A scheme of the web is read back** in front of its colon. -/
theorem scheme?_append_cons {scheme : List Char} (h : Layout.of scheme = .web) (r : List Char) :
    scheme? (scheme ++ ':' :: r) = some (scheme, r) := by
  have hall : webSchemes.all (fun t ↦ t.map Char.toLower == t) = true := by decide +kernel
  have hlower := eq_of_beq (List.all_eq_true.1 hall scheme (mem_webSchemes h))
  have hread := scheme?_append_of_map_toLower (hlower.symm ▸ h) r
  rwa [hlower] at hread

theorem isEscaped_scheme {scheme : List Char} (h : Layout.of scheme = .web) :
    Escape.IsEscaped [' '] scheme := by
  have hall : webSchemes.all (fun scheme ↦ scheme.all (Escape.isPlainChar [' '])) = true := by
    decide +kernel
  exact List.all_eq_true.1 (List.all_eq_true.1 hall scheme (mem_webSchemes h))

/-! ### Reading -/

/-- Nothing is passed over in a text without spaces and control characters. -/
theorem clean_of_forall {s : List Char} (h : ∀ c ∈ s, ' ' < c) : clean s = s := by
  have houter : ∀ t : List Char, (∀ c ∈ t, c ∈ s) → t.dropWhile (· ≤ ' ') = t := by
    rintro (- | ⟨c, t⟩) ht
    · rfl
    · refine List.dropWhile_cons_of_neg fun hle ↦ ?_
      exact Char.not_le.2 (h c (ht c List.mem_cons_self)) (of_decide_eq_true hle)
  have hinner : ∀ c ∈ s, (c != '\t' && c != '\n' && c != '\r') = true := by
    intro c hc
    have hlt := h c hc
    simp only [Bool.and_eq_true, bne_iff_ne]
    refine ⟨⟨?_, ?_⟩, ?_⟩ <;> rintro rfl <;> revert hlt <;> decide
  rw [clean, houter s fun c hc ↦ hc, houter s.reverse fun c hc ↦ List.mem_reverse.1 hc,
    List.reverse_reverse, List.filter_eq_self.2 hinner]

/-- Under a scheme of the web, an authority and a path are read behind any number of slashes. -/
theorem readWeb_eq (scheme : List Char) (closed : Bool) (s : List Char) :
    readWeb scheme closed s =
      (readAuthority .web scheme
        (closed || !((s.dropWhile Layout.web.isSlash).dropWhile (!Layout.web.isSlash ·)).isEmpty)
        ((s.dropWhile Layout.web.isSlash).takeWhile (!Layout.web.isSlash ·))).map fun (a, _) ↦
          (some a, .ofSegments .web (rawSegmentsAfterSlash .web
            ((s.dropWhile Layout.web.isSlash).dropWhile (!Layout.web.isSlash ·)))) := by
  rw [readWeb]
  dsimp only
  generalize readAuthority _ _ _ _ = read
  cases read <;> rfl

/-- What is between scheme and query is read by the layout of the scheme. -/
def readBody (scheme : List Char) (closed : Bool) (s : List Char) : Except Fault Body :=
  match Layout.of scheme with
  | .web => readWeb scheme closed s
  | .free => readFree scheme closed s
  | .file => readFile s

/-- A URL is read from its parts. -/
theorem read_of_scheme? {s scheme rest : List Char}
    (h : scheme? (clean s) = some (scheme, rest)) :
    read s =
      (readBody scheme
        ((cutAt '?' (cutAt '#' rest).1).2.isSome || (cutAt '#' rest).2.isSome)
        (cutAt '?' (cutAt '#' rest).1).1).map fun (authority, path) ↦
          ⟨scheme, authority, path,
            (cutAt '?' (cutAt '#' rest).1).2.map (Escape.escape
              (if Layout.of scheme = .free then Escape.inQuery else Escape.inWebQuery)),
            (cutAt '#' rest).2.map (Escape.escape Escape.inFragment)⟩ := by
  rw [read, h, readBody]
  dsimp only
  cases Layout.of scheme with
  | web => cases readWeb _ _ _ <;> rfl
  | free => cases readFree _ _ _ <;> rfl
  | file => cases readFile _ <;> rfl

/-- A URL that is read has a scheme, and what follows it was read. -/
theorem exists_of_read {s : List Char} {u : Url} (h : read s = .ok u) :
    ∃ rest closed body, scheme? (clean s) = some (u.scheme, rest) ∧
      readBody u.scheme closed body = .ok (u.authority, u.path) ∧
      (∃ query, u.query = Option.map (Escape.escape
        (if Layout.of u.scheme = .free then Escape.inQuery else Escape.inWebQuery)) query) ∧
      ∃ fragment, u.fragment = Option.map (Escape.escape Escape.inFragment) fragment := by
  cases hscheme : scheme? (clean s) with
  | none =>
    rw [read, hscheme] at h
    cases h
  | some cut =>
    obtain ⟨scheme, rest⟩ := cut
    rw [read_of_scheme? hscheme] at h
    generalize hbody : readBody scheme _ _ = read at h
    cases read with
    | error fault => cases h
    | ok body =>
      obtain ⟨authority, path⟩ := body
      obtain rfl := Except.ok.inj h
      exact ⟨rest, _, _, rfl, hbody, ⟨_, rfl⟩, ⟨_, rfl⟩⟩

/-! ### What is read -/

/-- A URL that is read under a scheme of the web. -/
structure IsRead (u : Url) : Prop where
  layout : Layout.of u.scheme = .web
  authority : ∃ a, u.authority = some a ∧ a.IsRead u.scheme
  path : ∃ segments, u.path = .divided segments ∧ segments ≠ [] ∧
    ∀ s ∈ segments, Path.IsSegment .web s
  query : ∀ q ∈ u.query, Escape.IsEscaped Escape.inWebQuery q
  fragment : ∀ f ∈ u.fragment, Escape.IsEscaped Escape.inFragment f

/-- Whether a URL is read again: all are but those whose host has a label that is too long. -/
def isLegible (u : Url) : Bool :=
  u.authority.all (·.host.isLegible)

/-- **What is read** under a scheme of the web. -/
theorem isRead_of_read {s : List Char} {u : Url} (h : read s = .ok u)
    (hweb : Layout.of u.scheme = .web) : u.IsRead := by
  obtain ⟨-, closed, body, -, hbody, ⟨query, hquery⟩, ⟨fragment, hfragment⟩⟩ := exists_of_read h
  rw [readBody, hweb] at hbody
  dsimp only at hbody
  rw [readWeb_eq] at hbody
  generalize hauthority : readAuthority _ _ _ _ = read at hbody
  cases read with
  | error fault => cases hbody
  | ok read =>
    obtain ⟨a, stray⟩ := read
    obtain ⟨hsome, hpath⟩ := Prod.mk.inj (Except.ok.inj hbody)
    obtain ⟨hne, hslash⟩ := rawSegmentsAfterSlash_spec .web
      ((body.dropWhile Layout.web.isSlash).dropWhile (!Layout.web.isSlash ·))
    obtain ⟨segments, hsegments, hsome', hall⟩ := Path.exists_of_ofSegments (by decide) hne hslash
    exact {
      layout := hweb
      authority := ⟨a, hsome.symm, isRead_of_readAuthority hauthority⟩
      path := ⟨segments, hpath.symm.trans hsegments, hsome', hall⟩
      query := by
        intro q hq
        rw [hquery, hweb] at hq
        obtain ⟨raw, -, rfl⟩ := Option.map_eq_some_iff.1 hq
        exact Escape.isEscaped_escape (by decide) raw
      fragment := by
        intro f hf
        rw [hfragment] at hf
        obtain ⟨raw, -, rfl⟩ := Option.map_eq_some_iff.1 hf
        exact Escape.isEscaped_escape (by decide) raw }

/-! ### Texts put together from parts -/

section Parts

variable {scheme : List Char}

/-- A text is cut into the parts that it was put together from, if none has what ends it. -/
theorem read_of_parts {body : List Char} {query fragment : Option (List Char)}
    (hweb : Layout.of scheme = .web)
    (hchars : ∀ c ∈ body ++ optional '?' query ++ optional '#' fragment, ' ' < c)
    (hhash : '#' ∉ body ++ optional '?' query) (hmark : '?' ∉ body) :
    read (scheme ++ ':' :: (body ++ optional '?' query ++ optional '#' fragment)) =
      (readWeb scheme (query.isSome || fragment.isSome) body).map fun (authority, path) ↦
        ⟨scheme, authority, path, query.map (Escape.escape Escape.inWebQuery),
          fragment.map (Escape.escape Escape.inFragment)⟩ := by
  have hall : ∀ c ∈ scheme ++ ':' :: (body ++ optional '?' query ++ optional '#' fragment),
      ' ' < c := by
    refine List.forall_mem_append.2 ⟨fun c hc ↦ ?_, List.forall_mem_cons.2 ⟨by decide, hchars⟩⟩
    exact Escape.lt_of_isPlainChar (isEscaped_scheme hweb c hc) (by decide)
  have hscheme : scheme? (clean (scheme ++ ':' ::
      (body ++ optional '?' query ++ optional '#' fragment))) =
        some (scheme, body ++ optional '?' query ++ optional '#' fragment) := by
    rw [clean_of_forall hall, scheme?_append_cons hweb]
  rw [read_of_scheme? hscheme, cutAt_append_optional hhash, cutAt_append_optional hmark, readBody,
    hweb, if_neg (by decide)]

theorem isSlash_eq_false {layout : Layout} {c : Char} (hslash : c ≠ '/') (hback : c ≠ '\\') :
    layout.isSlash c = false := by
  rw [Layout.isSlash, beq_eq_false_iff_ne.2 hslash, beq_eq_false_iff_ne.2 hback]
  rfl

/-- Behind two slashes, the authority goes on to the next one, where the path begins. -/
theorem readWeb_slashes {place path : List Char} (hne : place ≠ [])
    (hplace : ∀ c ∈ place, Layout.web.isSlash c = false)
    (hpath : ∀ c ∈ path.head?, Layout.web.isSlash c = true) (closed : Bool) :
    readWeb scheme closed ('/' :: '/' :: (place ++ path)) =
      (readAuthority .web scheme (closed || !path.isEmpty) place).map fun (a, _) ↦
        (some a, .ofSegments .web (rawSegmentsAfterSlash .web path)) := by
  have hplain : ∀ c ∈ place, (!Layout.web.isSlash c) = true := fun c hc ↦ by
    rw [hplace c hc, Bool.not_false]
  have hlead : ('/' :: '/' :: (place ++ path)).dropWhile Layout.web.isSlash = place ++ path := by
    obtain ⟨c, r, rfl⟩ := List.exists_cons_of_ne_nil hne
    rw [List.dropWhile_cons_of_pos rfl, List.dropWhile_cons_of_pos rfl, List.cons_append,
      List.dropWhile_cons_of_neg (by rw [hplace c List.mem_cons_self]; decide)]
  have hcut : (place ++ path).takeWhile (!Layout.web.isSlash ·) = place ∧
      (place ++ path).dropWhile (!Layout.web.isSlash ·) = path := by
    rw [List.takeWhile_append_of_pos hplain, List.dropWhile_append_of_pos hplain]
    cases path with
    | nil => exact ⟨List.append_nil _, rfl⟩
    | cons c path =>
      have hc : ¬ (!Layout.web.isSlash c) = true := by
        rw [hpath c rfl]
        decide
      rw [List.takeWhile_cons_of_neg (p := (!Layout.web.isSlash ·)) hc,
        List.dropWhile_cons_of_neg (p := (!Layout.web.isSlash ·)) hc]
      exact ⟨List.append_nil _, rfl⟩
  rw [readWeb_eq, hlead, hcut.1, hcut.2]

/-- A text that names a scheme and a host and nothing else. -/
theorem read_of_host {host : List Char} (hweb : Layout.of scheme = .web) (hne : host ≠ [])
    (h : ∀ c ∈ host, ' ' < c ∧ c ∉ ['#', '/', ':', '?', '@', '[', '\\', ']']) :
    read (scheme ++ ':' :: '/' :: '/' :: host) = (Host.ofDomain host).map fun host ↦
      ⟨scheme, some ⟨[], [], host, none⟩, .divided [[]], none, none⟩ := by
  have hne' {c d : Char} (hc : c ∈ host) (hd : d ∈ ['#', '/', ':', '?', '@', '[', '\\', ']']) :
      c ≠ d := fun heq ↦ (h c hc).2 (heq ▸ hd)
  have hplace : ∀ c ∈ host, Layout.web.isSlash c = false := fun c hc ↦
    isSlash_eq_false (hne' hc (by decide)) (hne' hc (by decide))
  have hbody {d : Char} (hd : d ∈ ['#', '?']) : d ∉ '/' :: '/' :: host := by
    simp only [List.mem_cons, List.not_mem_nil, or_false, not_or] at hd ⊢
    rcases hd with rfl | rfl
    · exact ⟨by decide, by decide, fun hm ↦ hne' hm (by decide) rfl⟩
    · exact ⟨by decide, by decide, fun hm ↦ hne' hm (by decide) rfl⟩
  have hchars : ∀ c ∈ '/' :: '/' :: host, ' ' < c := by
    simp only [List.forall_mem_cons]
    exact ⟨by decide, by decide, fun c hc ↦ (h c hc).1⟩
  have htext : scheme ++ ':' :: '/' :: '/' :: host = scheme ++ ':' ::
      ('/' :: '/' :: (host ++ []) ++ optional '?' none ++ optional '#' none) := by
    simp [optional]
  have hpath : Path.ofSegments .web (rawSegmentsAfterSlash .web []) = .divided [[]] :=
    Path.ofSegments_of_forall (by decide) fun s hs ↦
      List.mem_singleton.1 hs ▸ Path.isSegment_nil .web
  rw [htext, read_of_parts hweb (by simpa [optional] using hchars)
    (by simpa [optional] using hbody (d := '#') (by decide))
    (by simpa using hbody (d := '?') (by decide)),
    readWeb_slashes hne hplace (by simp), hpath, readAuthority_of_host hne fun c hc ↦ ?_]
  · cases Host.ofDomain host <;> rfl
  · exact ⟨hne' hc (by decide), hne' hc (by decide), hne' hc (by decide), hne' hc (by decide)⟩

end Parts

/-! ### The written form -/

section Written

variable {u : Url}

/-- What is written in front of a query. -/
def bodyText (a : Authority) (segments : List (List Char)) : List Char :=
  '/' :: '/' :: (a.text ++ segments.flatMap ('/' :: ·))

theorem text_eq {a : Authority} {segments : List (List Char)} (ha : u.authority = some a)
    (hpath : u.path = .divided segments) :
    u.text = u.scheme ++ ':' :: (bodyText a segments ++ optional '?' u.query ++
      optional '#' u.fragment) := by
  rw [text, ha, hpath, authorityText, Path.text, bodyText]
  simp only [List.append_assoc, List.cons_append]

variable {a : Authority} {segments : List (List Char)} {scheme : List Char}

/-- The characters of a written authority and a path end neither of the two. -/
theorem isEscaped_bodyText (ha : a.IsRead scheme)
    (hsegments : ∀ s ∈ segments, Path.IsSegment .web s) :
    Escape.IsEscaped [' ', '#', '?'] (bodyText a segments) := by
  have hpath : Escape.IsEscaped [' ', '#', '?'] (segments.flatMap ('/' :: ·)) := by
    intro c hc
    obtain ⟨s, hs, hc⟩ := List.mem_flatMap.1 hc
    rcases List.mem_cons.1 hc with rfl | hc
    · decide
    · exact Escape.isPlainChar_mono (by decide) ((hsegments s hs).isEscaped c hc)
  refine Escape.IsEscaped.append (s := ['/', '/']) (by decide) ?_
  exact (ha.isEscaped_text.mono (by decide)).append hpath

/-- **An authority and a path are read back.** -/
theorem readWeb_bodyText (ha : a.IsRead scheme) (hne : segments ≠ [])
    (hsegments : ∀ s ∈ segments, Path.IsSegment .web s) (closed : Bool) :
    readWeb scheme closed (bodyText a segments) =
      if a.host.isLegible then .ok (some a, .divided segments) else .error .domain := by
  have hplace : ∀ c ∈ a.text, Layout.web.isSlash c = false := fun c hc ↦
    isSlash_eq_false (Escape.ne_of_isPlainChar (ha.isEscaped_text c hc) (by decide))
      (Escape.ne_of_isPlainChar (ha.isEscaped_text c hc) (by decide))
  have hpath : ∀ c ∈ (segments.flatMap ('/' :: ·)).head?, Layout.web.isSlash c = true := by
    rw [Path.flatMap_cons_eq hne]
    rintro c ⟨⟩
    rfl
  rw [bodyText, readWeb_slashes ha.text_ne_nil hplace hpath, ha.readAuthority_text,
    rawSegmentsAfterSlash_flatMap hne fun s hs ↦ (hsegments s hs).isSlash_eq,
    Path.ofSegments_of_forall (by decide) hsegments]
  cases a.host.isLegible <;> rfl

theorem isEscaped_optional {excluded : List Char} {lead : Char} {part : Option (List Char)}
    (hlead : Escape.isPlainChar excluded lead = true)
    (h : ∀ s ∈ part, Escape.IsEscaped excluded s) :
    Escape.IsEscaped excluded (optional lead part) := by
  cases part with
  | none => exact Escape.isEscaped_nil excluded
  | some s => exact List.forall_mem_cons.2 ⟨hlead, h s rfl⟩

theorem map_escape_of_isEscaped {excluded : List Char} {part : Option (List Char)}
    (h : ∀ s ∈ part, Escape.IsEscaped excluded s) :
    part.map (Escape.escape excluded) = part := by
  cases part with
  | none => rfl
  | some s => rw [Option.map_some, Escape.escape_of_isEscaped (h s rfl)]

/-- **A URL is read again as itself**, exactly if it is legible. -/
theorem IsRead.read_text (h : u.IsRead) :
    read u.text = if u.isLegible then .ok u else .error .domain := by
  obtain ⟨a, hauthority, ha⟩ := h.authority
  obtain ⟨segments, hpath, hne, hsegments⟩ := h.path
  have hbody := isEscaped_bodyText ha hsegments
  have hfront : Escape.IsEscaped [' ', '#'] (bodyText a segments ++ optional '?' u.query) :=
    (hbody.mono (by decide)).append
      (isEscaped_optional (by decide) fun q hq ↦ (h.query q hq).mono (by decide))
  have hall : Escape.IsEscaped [' ']
      (bodyText a segments ++ optional '?' u.query ++ optional '#' u.fragment) :=
    (hfront.mono (by decide)).append
      (isEscaped_optional (by decide) fun f hf ↦ (h.fragment f hf).mono (by decide))
  have hchars := fun c hc ↦ Escape.lt_of_isPlainChar (hall c hc) (by decide)
  rw [text_eq hauthority hpath, read_of_parts h.layout hchars (hfront.notMem (by decide))
    (hbody.notMem (by decide)), map_escape_of_isEscaped h.query,
    map_escape_of_isEscaped h.fragment, readWeb_bodyText ha hne hsegments, isLegible, hauthority,
    Option.all_some]
  cases a.host.isLegible with
  | false => rfl
  | true =>
    rw [if_pos rfl, if_pos rfl, ← hauthority, ← hpath]
    rfl

end Written

/-! ### One more pair -/

/-- A written pair is one that a query may hold. -/
theorem isEscaped_encodePair (pair : List Char × List Char) :
    Escape.IsEscaped Escape.inWebQuery (Form.encodePair pair) := by
  have hall : ∀ b, (Form.encodeByte b).all (Escape.isPlainChar Escape.inWebQuery) = true :=
    forall_byte
      (P := fun b ↦ (Form.encodeByte b).all (Escape.isPlainChar Escape.inWebQuery) = true)
      (by decide +kernel)
  have hencode (s : List Char) : Escape.IsEscaped Escape.inWebQuery (Form.encode s) := by
    intro c hc
    obtain ⟨b, -, hc⟩ := List.mem_flatMap.1 hc
    exact List.all_eq_true.1 (hall b) c hc
  exact (hencode pair.1).append (List.forall_mem_cons.2 ⟨by decide, hencode pair.2⟩)

/-- **A pair is added behind the others.** -/
theorem decodePairs_appendPair (query : Option (List Char)) (pair : List Char × List Char) :
    Form.decodePairs (appendPair query pair) = Form.decodePairs (query.getD []) ++ [pair] := by
  rcases query with - | - | ⟨c, q⟩
  · exact Form.decodePairs_encodePair pair
  · exact Form.decodePairs_encodePair pair
  · show Form.decodePairs ((c :: q) ++ '&' :: Form.encodePair pair) = _
    rw [Form.decodePairs_append_cons, Form.decodePairs_encodePair]
    rfl

theorem pairs_append (u : Url) (pair : List Char × List Char) :
    (u.append pair).pairs = u.pairs ++ [pair] :=
  decodePairs_appendPair u.query pair

/-- The URL `v` has the parts of `u`, and in its query one pair more, the last one. -/
structure Extends (v u : Url) (pair : List Char × List Char) : Prop where
  scheme : v.scheme = u.scheme
  authority : v.authority = u.authority
  path : v.path = u.path
  fragment : v.fragment = u.fragment
  /-- The query begins with the earlier one, if there was any. -/
  query : v.query = some
    (if u.query.getD [] = [] then Form.encodePair pair
    else u.query.getD [] ++ '&' :: Form.encodePair pair)
  /-- The pairs that are read from it are the earlier ones and then the new one. -/
  pairs : v.pairs = u.pairs ++ [pair]

theorem extends_append (u : Url) (pair : List Char × List Char) :
    (u.append pair).Extends u pair where
  scheme := rfl
  authority := rfl
  path := rfl
  fragment := rfl
  query := by
    rw [query_append]
    rcases u.query with - | - | ⟨c, q⟩ <;> rfl
  pairs := pairs_append u pair

/-- A pair changes only the query. -/
theorem IsRead.append {u : Url} (h : u.IsRead) (pair : List Char × List Char) :
    (u.append pair).IsRead where
  layout := h.layout
  authority := h.authority
  path := h.path
  query := by
    intro q hq
    obtain rfl := Option.some.inj hq
    have hpair := isEscaped_encodePair pair
    unfold appendPair
    split
    · exact hpair
    · exact hpair
    · next q _ hquery =>
      exact (h.query q hquery).append (List.forall_mem_cons.2 ⟨by decide, hpair⟩)
  fragment := h.fragment

theorem isLegible_append (u : Url) (pair : List Char × List Char) :
    (u.append pair).isLegible = u.isLegible :=
  rfl

theorem layout_of_web {scheme : List Char}
    (h : scheme = "http".toList ∨ scheme = "https".toList) : Layout.of scheme = .web := by
  rcases h with rfl | rfl <;> decide

/-- **A URL of the web with one more pair is read again** exactly if it is legible. -/
theorem read_text_append {s : List Char} {u : Url} (h : read s = .ok u)
    (hscheme : u.scheme = "http".toList ∨ u.scheme = "https".toList)
    (pair : List Char × List Char) :
    read (u.append pair).text = if u.isLegible then .ok (u.append pair) else .error .domain := by
  rw [((isRead_of_read h (layout_of_web hscheme)).append pair).read_text, isLegible_append]

end Url

end Unscramble

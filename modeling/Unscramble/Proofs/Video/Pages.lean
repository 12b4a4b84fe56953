import Unscramble.Proofs.Url.Spelled
import Unscramble.Proofs.Video.Again

/-!
# All texts that name a video agree

A video is named by its id and by the pages that show it, and each of these can be spelled in many
ways: letters of scheme and host in upper or lower case, other pairs in the query, a further segment
behind the id, a query and a fragment that nobody reads, white space around it all. The relation
`Denotes` lists these texts, and whichever of them is given, the id comes out.

All pages are read in one way, as they are spelled, and differ only in where the id is then found.
Wherever it is, it is not changed there: an id has none of the characters that would be escaped in a
path or that end a segment.

## Main definitions

* `pageText`: the text of a page.
* `Denotes`: the texts that name a video by its id.

## Main statements

* `idOf_of_denotes`: the id of a text that names a video.
* `Denotes.of_pairs`: any form is the query of a watch page.
* `idOf_of_otherHost`: pages of other hosts name nothing.
* `idOf_pages`: both together.
-/

namespace Unscramble.Video

open Unscramble.Text

/-! ### Texts -/

/-- The schemes of pages. -/
def pageSchemes : List (List Char) :=
  ["http".toList, "https".toList]

/-- The text of a page. -/
def pageText (scheme host path : List Char) (query fragment : Option (List Char)) : List Char :=
  scheme ++ "://".toList ++ host ++ path ++ Url.optional '?' query ++ Url.optional '#' fragment

/-- A character of a segment that is read as it stands, such as a letter or a digit. -/
def isSegmentChar (c : Char) : Bool :=
  Url.isKept c && !(['#', '%', '.', '/', '?', '\\'].contains c)

/-- The texts that name a video by its id, apart from white space around them. -/
inductive Denotes (id : List Char) : List Char → Prop
  /-- The id as it stands. -/
  | bare : Denotes id id
  /-- A watch page, if the first `v` in its query has the id as its value. -/
  | watch {scheme host query : List Char} (scheme_mem : scheme.map Char.toLower ∈ pageSchemes)
      (host_mem : host.map Char.toLower ∈ longHosts)
      (query_kept : ∀ c ∈ query, Url.isKept c = true ∧ c ≠ '#')
      (lookup : Form.lookup? ['v'] (Form.decodePairs query) = some id)
      (fragment : Option (List Char)) :
      Denotes id (pageText scheme host "/watch".toList (some query) fragment)
  /-- A page with the id behind a prefix of the path, and at most one more segment. -/
  | path {scheme host start : List Char} {further query : Option (List Char)}
      (scheme_mem : scheme.map Char.toLower ∈ pageSchemes)
      (host_mem : host.map Char.toLower ∈ longHosts) (start_mem : start ∈ idPrefixes)
      (further_chars : ∀ s ∈ further, ∀ c ∈ s, isSegmentChar c = true)
      (query_hash : ∀ q ∈ query, '#' ∉ q) (fragment : Option (List Char)) :
      Denotes id (pageText scheme host (start ++ (id ++ Url.optional '/' further)) query fragment)
  /-- A page of the short host. -/
  | short {scheme host : List Char} {query : Option (List Char)}
      (scheme_mem : scheme.map Char.toLower ∈ pageSchemes)
      (host_eq : host.map Char.toLower = shortHost) (query_hash : ∀ q ∈ query, '#' ∉ q)
      (fragment : Option (List Char)) :
      Denotes id (pageText scheme host ('/' :: id) query fragment)

/-- **Any form is the query of a watch page**, whatever stands before and behind its first `v`. -/
theorem Denotes.of_pairs {id scheme host : List Char} {pairs : List (List Char × List Char)}
    (scheme_mem : scheme.map Char.toLower ∈ pageSchemes)
    (host_mem : host.map Char.toLower ∈ longHosts) (lookup : pairs.lookup ['v'] = some id)
    (fragment : Option (List Char)) :
    Denotes id (pageText scheme host "/watch".toList (some (Form.encodePairs pairs)) fragment) := by
  refine .watch scheme_mem host_mem ?_ ?_ fragment
  · have hascii : ∀ n < 0x80, (Form.isEncoded (Char.ofNat n) = true ∨ Char.ofNat n = '=') →
        Url.isKept (Char.ofNat n) = true ∧ Char.ofNat n ≠ '#' := by
      decide +kernel
    refine forall_mem_intercalate (List.forall_mem_singleton.2 (by decide)) fun s hs c hc ↦ ?_
    obtain ⟨pair, -, rfl⟩ := List.mem_map.1 hs
    have hform := Form.mem_encodePair pair hc
    refine forall_ascii (P := fun c ↦ (Form.isEncoded c = true ∨ c = '=') →
      Url.isKept c = true ∧ c ≠ '#') hascii ?_ hform
    rcases hform with hform | rfl
    · rw [Form.isEncoded, Bool.or_eq_true, List.contains_iff_mem] at hform
      rcases hform with hform | hform
      · exact Pattern.toNat_lt_of_isAlphanum hform
      · have hall : ['*', '-', '.', '_', '+', '%'].all (·.toNat < 0x80) = true := by decide
        exact of_decide_eq_true (List.all_eq_true.1 hall c hform)
    · decide
  · rw [Form.decodePairs_encodePairs, Form.lookup?_eq_lookup, lookup]

/-! ### Where the id is found -/

/-- The characters of an id are those of a segment. -/
theorem isSegmentChar_of_isIdChar {c : Char} (h : isIdChar c = true) :
    isSegmentChar c = true ∧ Url.Escape.isPlainChar Url.Escape.inPath c = true ∧ c ≠ '/' := by
  have hascii : ∀ n < 0x80, isIdChar (Char.ofNat n) = true → isSegmentChar (Char.ofNat n) = true ∧
      Url.Escape.isPlainChar Url.Escape.inPath (Char.ofNat n) = true ∧ Char.ofNat n ≠ '/' := by
    decide +kernel
  exact forall_ascii (P := fun c ↦ isIdChar c = true → isSegmentChar c = true ∧
    Url.Escape.isPlainChar Url.Escape.inPath c = true ∧ c ≠ '/') hascii (toNat_lt_of_isIdChar h) h

section Pages

variable {id : List Char} (hid : isId id = true)
include hid

theorem isIdChar_of_mem : ∀ c ∈ id, isIdChar c = true := by
  rw [isId, Bool.and_eq_true, List.all_eq_true] at hid
  exact hid.2

theorem id_ne_nil : id ≠ [] := by
  rintro rfl
  cases hid

/-- An id is not changed in a path. -/
theorem escape_id : Url.Escape.escape Url.Escape.inPath id = id :=
  Url.Escape.escape_of_isEscaped fun c hc ↦
    (isSegmentChar_of_isIdChar (isIdChar_of_mem hid c hc)).2.1

/-- The id in the path of a page of the short host. -/
theorem shortId_of_id : shortId ('/' :: id) = .ok id := by
  obtain ⟨c, r, rfl⟩ := List.exists_cons_of_ne_nil (id_ne_nil hid)
  have hc : c ≠ '/' := (isSegmentChar_of_isIdChar (isIdChar_of_mem hid c List.mem_cons_self)).2.2
  rw [shortId, List.dropWhile_cons_of_pos (by decide),
    List.dropWhile_cons_of_neg (by simpa using hc)]

/-- The id behind a prefix of the path. -/
theorem longId_of_start {u : Url} {start : List Char} {further : Option (List Char)}
    (hstart : start ∈ idPrefixes)
    (hpath : u.path.text = start ++ (id ++ Url.optional '/' further)) : longId u = .ok id := by
  have htake : (id ++ Url.optional '/' further).takeWhile (· != '/') = id := by
    rw [List.takeWhile_append_of_pos fun c hc ↦ by
      simpa using (isSegmentChar_of_isIdChar (isIdChar_of_mem hid c hc)).2.2]
    cases further with
    | none => exact List.append_nil _
    | some s =>
      rw [Url.optional, List.takeWhile_cons_of_neg (by decide), List.append_nil]
  have hwatch : ("/watch".toList).isPrefixOf u.path.text = false := by
    rw [hpath]
    simp only [idPrefixes, List.mem_cons, List.not_mem_nil, or_false] at hstart
    rcases hstart with rfl | rfl | rfl <;> rfl
  have hfind : idPrefixes.findSome? (strip? · u.path.text) =
      some (id ++ Url.optional '/' further) := by
    rw [hpath]
    simp only [idPrefixes, List.mem_cons, List.not_mem_nil, or_false] at hstart
    rcases hstart with rfl | rfl | rfl <;> rfl
  rw [longId, hwatch, if_neg Bool.false_ne_true, hfind]
  dsimp only
  rw [htake]
  cases id with
  | nil => exact absurd rfl (id_ne_nil hid)
  | cons c r => rfl

end Pages

/-! ### Pages -/

/-- The address of a page may be spelled so. -/
theorem isSpelled_page {scheme host : List Char} {segments : List (List Char)}
    (hscheme : scheme.map Char.toLower ∈ pageSchemes)
    (hhost : host.map Char.toLower ∈ shortHost :: longHosts) (hne : segments ≠ [])
    (hchars : ∀ s ∈ segments, ∀ c ∈ s, isSegmentChar c = true) :
    Url.IsSpelled scheme host segments where
  scheme := by
    have hall : ∀ t ∈ pageSchemes, Url.Layout.of t = .web := by decide +kernel
    exact hall _ hscheme
  host := by
    have hall : ∀ t ∈ shortHost :: longHosts, Url.Host.ofDomain t = .ok (.name t) := by
      decide +kernel
    exact hall _ hhost
  segments_ne_nil := hne
  chars s hs c hc := by
    have hsubset : ['#', '/', '?', '\\'] ⊆ ['#', '%', '.', '/', '?', '\\'] := by decide
    have hchar := hchars s hs c hc
    simp only [isSegmentChar, Bool.and_eq_true, Bool.not_eq_true', List.contains_eq_mem,
      decide_eq_false_iff_not] at hchar
    exact ⟨hchar.1, fun hm ↦ hchar.2 (hsubset hm)⟩
  not_dots s hs := by
    have hnot {c : Char} (hc : isSegmentChar c = false) : c ∉ s := fun hm ↦ by
      rw [hchars s hs c hm] at hc
      cases hc
    exact Url.Path.not_dots_of_notMem (hnot (by decide)) (hnot (by decide))

/-- A prefix of a path is one segment. -/
theorem exists_of_mem_idPrefixes {start : List Char} (h : start ∈ idPrefixes) :
    ∃ word, start = '/' :: (word ++ ['/']) ∧ (∀ c ∈ word, isSegmentChar c = true) ∧
      Url.Escape.escape Url.Escape.inPath word = word := by
  have hall : ∀ t ∈ idPrefixes, t = '/' :: (t.tail.dropLast ++ ['/']) ∧
      t.tail.dropLast.all isSegmentChar = true ∧
        Url.Escape.escape Url.Escape.inPath t.tail.dropLast = t.tail.dropLast := by
    decide +kernel
  obtain ⟨hstart, hchars, hescape⟩ := hall start h
  exact ⟨_, hstart, List.all_eq_true.1 hchars, hescape⟩

section Read

variable {id scheme host before after : List Char} {query : Option (List Char)}
  (hbefore : before.all isBlank = true) (hafter : after.all isBlank = true)
include hbefore hafter

/-- **A page is read as it is spelled**, with its host and its path. -/
theorem exists_read_of_page {segments : List (List Char)}
    (h : Url.IsSpelled scheme host segments) (hquery : ∀ q ∈ query, '#' ∉ q)
    (fragment : Option (List Char)) :
    ∃ u, idOf (before ++ (pageText scheme host (segments.flatMap ('/' :: ·)) query fragment ++
        after)) = idOfUrl u ∧
      u.host? = some (host.map Char.toLower) ∧
      u.path.text = segments.flatMap (fun s ↦ '/' :: Url.Escape.escape Url.Escape.inPath s) ∧
      ∀ q ∈ query, (∀ c ∈ q, Url.isKept c = true) → u.pairs = Form.decodePairs q := by
  have htext : pageText scheme host (segments.flatMap ('/' :: ·)) query fragment =
      scheme ++ ':' :: Url.placeText host segments ++ Url.optional '?' query ++
        Url.optional '#' fragment := by
    simp [pageText, Url.placeText]
  obtain ⟨u, hread, hhost, hpath, hpairs⟩ := h.exists_read hbefore hafter hquery fragment
  refine ⟨u, htext ▸ idOf_of_read hread, hhost, ?_, hpairs⟩
  rw [hpath, Url.Path.text, List.flatMap_map]

variable (hscheme : scheme.map Char.toLower ∈ pageSchemes)
include hscheme

/-- The id in a watch page is the first value of `v`. -/
theorem idOf_watchPage (hhost : host.map Char.toLower ∈ longHosts) {q : List Char}
    (hkept : ∀ c ∈ q, Url.isKept c = true ∧ c ≠ '#')
    (hid : Form.lookup? ['v'] (Form.decodePairs q) = some id) (fragment : Option (List Char)) :
    idOf (before ++ (pageText scheme host "/watch".toList (some q) fragment ++ after)) =
      .ok id := by
  have hchars : "watch".toList.all isSegmentChar = true := by decide +kernel
  have hspelled : Url.IsSpelled scheme host ["watch".toList] :=
    isSpelled_page hscheme (List.mem_cons_of_mem _ hhost) (List.cons_ne_nil _ _)
      (List.forall_mem_singleton.2 (List.all_eq_true.1 hchars))
  have hquery : ∀ q' ∈ some q, '#' ∉ q' := by
    rintro q' ⟨rfl⟩ hm
    exact (hkept '#' hm).2 rfl
  obtain ⟨u, hidOf, hu, hpath, hpairs⟩ :=
    exists_read_of_page hbefore hafter hspelled hquery fragment
  have hwatch : isWatchPage u = true := by
    rw [isWatchPage, hu, hpath, Option.any_some, List.contains_iff_mem.2 hhost]
    decide +kernel
  rw [show "/watch".toList = ["watch".toList].flatMap ('/' :: ·) from rfl, hidOf,
    idOfUrl_of_isWatchPage hwatch, hpairs q rfl fun c hc ↦ (hkept c hc).1, hid]

variable (hid : isId id = true) (hquery : ∀ q ∈ query, '#' ∉ q)
include hid hquery

/-- The id behind a prefix of the path, with or without a further segment. -/
theorem idOf_pathPage (hhost : host.map Char.toLower ∈ longHosts) {start : List Char}
    (hstart : start ∈ idPrefixes) {further : Option (List Char)}
    (hfurther : ∀ s ∈ further, ∀ c ∈ s, isSegmentChar c = true) (fragment : Option (List Char)) :
    idOf (before ++ (pageText scheme host (start ++ (id ++ Url.optional '/' further)) query
      fragment ++ after)) = .ok id := by
  obtain ⟨word, rfl, hword, hescape⟩ := exists_of_mem_idPrefixes hstart
  have hchars : ∀ s ∈ word :: id :: further.toList, ∀ c ∈ s, isSegmentChar c = true :=
    List.forall_mem_cons.2 ⟨hword, List.forall_mem_cons.2
      ⟨fun c hc ↦ (isSegmentChar_of_isIdChar (isIdChar_of_mem hid c hc)).1, by simpa using
        hfurther⟩⟩
  have hspelled := isSpelled_page hscheme (List.mem_cons_of_mem _ hhost)
    (List.cons_ne_nil _ _) hchars
  obtain ⟨u, hidOf, hu, hpath, -⟩ := exists_read_of_page hbefore hafter hspelled hquery fragment
  have htext (further : Option (List Char)) :
      '/' :: (word ++ ['/']) ++ (id ++ Url.optional '/' further) =
        (word :: id :: further.toList).flatMap ('/' :: ·) := by
    cases further <;> simp [Url.optional]
  have hpath' : u.path.text = '/' :: (word ++ ['/']) ++
      (id ++ Url.optional '/' (further.map (Url.Escape.escape Url.Escape.inPath))) := by
    rw [hpath, htext]
    cases further <;> simp [hescape, escape_id hid]
  rw [htext, hidOf, idOfUrl_of_longHost hu hhost, longId_of_start hid hstart hpath']

/-- The id in a page of the short host is its path. -/
theorem idOf_shortPage (hhost : host.map Char.toLower = shortHost)
    (fragment : Option (List Char)) :
    idOf (before ++ (pageText scheme host ('/' :: id) query fragment ++ after)) = .ok id := by
  have hspelled : Url.IsSpelled scheme host [id] := by
    refine isSpelled_page hscheme (hhost ▸ List.mem_cons_self) (List.cons_ne_nil _ _) ?_
    rintro s hs c hc
    rw [List.mem_singleton.1 hs] at hc
    exact (isSegmentChar_of_isIdChar (isIdChar_of_mem hid c hc)).1
  obtain ⟨u, hidOf, hu, hpath, -⟩ := exists_read_of_page hbefore hafter hspelled hquery fragment
  rw [List.flatMap_singleton] at hidOf hpath
  rw [hidOf, idOfUrl, hu]
  dsimp only
  rw [if_pos hhost, hpath, escape_id hid, shortId_of_id hid]

end Read

/-- **The id of a text that names a video.** -/
theorem idOf_of_denotes {id text before after : List Char} (hid : isId id = true)
    (h : Denotes id text) (hbefore : before.all isBlank = true)
    (hafter : after.all isBlank = true) : idOf (before ++ (text ++ after)) = .ok id := by
  cases h with
  | bare => rw [idOf, trim_append_of_all_isBlank hbefore hafter, trim_of_isId hid, if_pos hid]
  | watch scheme_mem host_mem query_kept lookup fragment =>
    exact idOf_watchPage hbefore hafter scheme_mem host_mem query_kept lookup fragment
  | path scheme_mem host_mem start_mem further_chars query_hash fragment =>
    exact idOf_pathPage hbefore hafter scheme_mem hid query_hash host_mem start_mem further_chars
      fragment
  | short scheme_mem host_eq query_hash fragment =>
    exact idOf_shortPage hbefore hafter scheme_mem hid query_hash host_eq fragment

/-- **Pages of other hosts name nothing.** -/
theorem idOf_of_otherHost {s : List Char} {u : Url} (h : Url.read (trim s) = .ok u)
    (hhost : ∀ host ∈ u.host?, host ∉ shortHost :: longHosts) : idOf s = .error .otherHost := by
  rw [idOf_of_read h, idOfUrl]
  split
  · rfl
  · next host hu =>
    have hnot := hhost host hu
    rw [List.mem_cons, not_or] at hnot
    rw [if_neg hnot.1, if_neg fun hc ↦ hnot.2 (List.contains_iff_mem.1 hc)]

/-- **All texts that name a video agree**, and pages of other hosts name nothing. -/
theorem idOf_pages :
    (∀ {id text before after : List Char}, isId id = true → Denotes id text →
      before.all isBlank = true → after.all isBlank = true →
        idOf (before ++ (text ++ after)) = .ok id) ∧
      ∀ {s : List Char} {u : Url}, Url.read (trim s) = .ok u →
        (∀ host ∈ u.host?, host ∉ shortHost :: longHosts) → idOf s = .error .otherHost :=
  ⟨idOf_of_denotes, idOf_of_otherHost⟩

/-- A watch page in mixed letter case with other pairs around the first `v`, and another host. -/
theorem idOf_pages_mixedCase :
    idOf (" \n".toList ++ ("HTTPS://WWW.YouTube.com/watch?a+b=%23&v=dQw4w9WgXcQ&v=x#t=1".toList ++
      "\u00A0".toList)) = .ok "dQw4w9WgXcQ".toList ∧
      idOf "https://example.com/watch?v=dQw4w9WgXcQ".toList = .error .otherHost := by
  refine ⟨idOf_pages.1 (by decide) ?_ (by decide) (by decide), ?_⟩
  · have hpairs : List.lookup ['v'] [("a b".toList, "#".toList),
        ("v".toList, "dQw4w9WgXcQ".toList), ("v".toList, "x".toList)] =
          some "dQw4w9WgXcQ".toList := by
      decide
    have hscheme : "HTTPS".toList.map Char.toLower ∈ pageSchemes := by decide
    have hhost : "WWW.YouTube.com".toList.map Char.toLower ∈ longHosts := by decide
    exact Denotes.of_pairs hscheme hhost hpairs (some "t=1".toList)
  · have hread : Url.read (trim "https://example.com/watch?v=dQw4w9WgXcQ".toList) =
        .ok ⟨"https".toList, some ⟨[], [], .name "example.com".toList, none⟩,
          .divided ["watch".toList], some "v=dQw4w9WgXcQ".toList, none⟩ := by
      decide +kernel
    exact idOf_pages.2 hread (by decide +kernel)

end Unscramble.Video

import Mathlib.Data.List.Flatten
import Unscramble.Proofs.Text.Shorter
import Unscramble.Proofs.Url.Query
import Unscramble.Proofs.Url.Reader

/-!
# What the parts of a URL are taken from

A URL is cut from the outside in, so each of its parts comes from a part of its text. No part is the
whole: the colon behind the scheme belongs to none. That bounds a query by its length, and a path by
its colons. The length is no bound on a path, which escaping makes longer; but escaping adds no
colon, and neither does walking through the segments. A drive is the one exception, whose `|` is
written as a colon; so a `|` is counted as one.

## Main definitions

* `colons`: the number of colons of a text.

## Main statements

* `Path.colons_text_ofSegments_le`: a path has no more colons than its raw segments.
* `colons_path_lt_of_read`: a path has fewer colons than the text of its URL.
* `exists_query_of_read`: the pairs of a URL are those of a shorter text.
-/

namespace Unscramble.Url

open Unscramble.Text

/-! ### Colons -/

/-- A colon, or what is written as one in a drive. -/
def isColon (c : Char) : Bool :=
  c == ':' || c == '|'

/-- The number of colons of a text. -/
def colons (s : List Char) : ℕ :=
  s.countP isColon

@[simp] theorem colons_nil : colons [] = 0 := rfl

@[simp] theorem colons_append (s t : List Char) : colons (s ++ t) = colons s + colons t :=
  List.countP_append

theorem colons_le_of_sublist {s t : List Char} (h : s.Sublist t) : colons s ≤ colons t :=
  h.countP_le

theorem colons_eq_zero {s : List Char} (h : ∀ c ∈ s, isColon c = false) : colons s = 0 :=
  List.countP_eq_zero.2 fun c hc ↦ by simp [h c hc]

theorem colons_cons_of_not {c : Char} (h : isColon c = false) (s : List Char) :
    colons (c :: s) = colons s :=
  List.countP_cons_of_neg (by simp [h])

/-- **Escaping adds no colon.** -/
theorem colons_escape_le (excluded s : List Char) :
    colons (Escape.escape excluded s) ≤ colons s := by
  have hchar (c : Char) : colons (Escape.escape excluded [c]) ≤ colons [c] := by
    by_cases hcolon : c = ':' ∨ c = '|'
    · rcases hcolon with rfl | rfl
      · show colons ((if Escape.isPlain excluded 0x3A then [':']
          else Percent.triplet 0x3A) ++ []) ≤ 1
        split <;> decide
      · show colons ((if Escape.isPlain excluded 0x7C then ['|']
          else Percent.triplet 0x7C) ++ []) ≤ 1
        split <;> decide
    · have hall : Escape.tripletChars.all (fun c ↦ !isColon c) = true := by decide
      refine (colons_eq_zero fun d hd ↦ ?_).trans_le (Nat.zero_le _)
      rcases Escape.mem_of_mem_escape hd with hd | hd
      · obtain rfl := List.mem_singleton.1 hd
        simpa [isColon] using hcolon
      · simpa using List.all_eq_true.1 hall d hd
  induction s with
  | nil => exact Nat.le_refl _
  | cons c s ih =>
    rw [← List.singleton_append, Escape.escape_append, colons_append, colons_append]
    exact Nat.add_le_add (hchar c) ih

/-! ### Paths -/

namespace Path

theorem back_sublist (done : List (List Char)) : (back done).Sublist done := by
  cases done with
  | nil => exact List.Sublist.refl _
  | cons s done =>
    rw [back]
    split
    · exact List.Sublist.refl _
    · exact List.sublist_cons_self s done

theorem dropEmpty_sublist (segments : List (List Char)) :
    (dropEmpty segments).Sublist segments := by
  induction segments with
  | nil => exact List.Sublist.refl _
  | cons s segments ih =>
    cases s with
    | cons c s => exact List.Sublist.refl _
    | nil =>
      cases segments with
      | nil => exact List.Sublist.refl _
      | cons t segments => exact ih.cons []

/-- A segment adds no more colons than it has. -/
theorem colons_forward_le (layout : Layout) (done : List (List Char)) (s : List Char) :
    colons (forward layout done s).flatten ≤ colons s + colons done.flatten := by
  have hescape := colons_escape_le Escape.inPath s
  rw [forward]
  generalize Escape.escape Escape.inPath s = escaped at hescape ⊢
  split
  · next hfile =>
    rw [hfile.2]
    split
    · next a b =>
      split
      · next hdrive =>
        have hb : isColon b = true := (Bool.and_eq_true _ _ ▸ hdrive).2
        have hcount : colons [a, ':'] = colons [a, b] := by
          have hcolon : isColon ':' = true := rfl
          simp only [colons, List.countP_cons, hb, hcolon]
        simpa [hcount] using hescape
      · simpa using hescape
    · next a r _ =>
      split
      · have hcount : colons (r ++ [a, ':']) = colons (a :: ':' :: r) := by
          simp [colons, List.countP_cons, isColon]
          omega
        simpa [hcount] using hescape
      · simpa using hescape
    · simpa using hescape
  · rw [List.flatten_cons, colons_append]
    exact Nat.add_le_add_right hescape _

/-- A walk adds no colons. -/
theorem colons_walk_le (layout : Layout) (raw done : List (List Char)) :
    colons (walk layout done raw).flatten ≤ colons done.flatten + colons raw.flatten := by
  induction raw generalizing done with
  | nil => exact Nat.le_refl _
  | cons s raw ih =>
    have hsettle (d : List (List Char)) :
        colons (if raw.isEmpty then [] :: d else d).flatten = colons d.flatten := by
      split <;> rfl
    rw [walk, List.flatten_cons, colons_append]
    dsimp only
    split
    · have := ih (if raw.isEmpty then [] :: back done else back done)
      have := colons_le_of_sublist (back_sublist done).flatten
      rw [hsettle] at *
      omega
    split
    · have := ih (if raw.isEmpty then [] :: done else done)
      rw [hsettle] at this
      omega
    · have := ih (forward layout done s)
      have := colons_forward_le layout done s
      omega

/-- **A path has no more colons than its raw segments.** -/
theorem colons_text_ofSegments_le (layout : Layout) (raw : List (List Char)) :
    colons (ofSegments layout raw).text ≤ colons raw.flatten := by
  have htext (segments : List (List Char)) :
      colons (segments.flatMap ('/' :: ·)) = colons segments.flatten := by
    induction segments with
    | nil => rfl
    | cons s segments ih =>
      rw [List.flatMap_cons, List.flatten_cons, colons_append, colons_append, ih,
        colons_cons_of_not (by decide)]
  have hreverse : colons (walk layout [] raw).reverse.flatten =
      colons (walk layout [] raw).flatten :=
    ((List.reverse_perm _).flatten).countP_eq _
  have hwalk := colons_walk_le layout raw []
  rw [ofSegments, text, htext]
  split
  · have := colons_le_of_sublist (dropEmpty_sublist (walk layout [] raw).reverse).flatten
    rw [List.flatten_nil, colons_nil] at hwalk
    omega
  · rw [List.flatten_nil, colons_nil] at hwalk
    omega

end Path

theorem flatten_rawSegments_sublist (layout : Layout) (s : List Char) :
    (rawSegments layout s).flatten.Sublist s :=
  flatten_pieces_sublist _ s

theorem flatten_rawSegmentsAfterSlash_sublist (layout : Layout) (s : List Char) :
    (rawSegmentsAfterSlash layout s).flatten.Sublist s := by
  cases s with
  | nil => exact flatten_rawSegments_sublist layout []
  | cons c s =>
    rw [rawSegmentsAfterSlash]
    split
    · exact (flatten_rawSegments_sublist layout s).cons c
    · exact flatten_rawSegments_sublist layout (c :: s)

theorem colons_rawSegments_le (layout : Layout) (raw s : List Char)
    (h : raw.Sublist s) :
    colons (Path.ofSegments layout (rawSegments layout raw)).text ≤ colons s :=
  (Path.colons_text_ofSegments_le layout _).trans
    (colons_le_of_sublist ((flatten_rawSegments_sublist layout raw).trans h))

theorem colons_rawSegmentsAfterSlash_le (layout : Layout) (raw s : List Char)
    (h : raw.Sublist s) :
    colons (Path.ofSegments layout (rawSegmentsAfterSlash layout raw)).text ≤ colons s :=
  (Path.colons_text_ofSegments_le layout _).trans
    (colons_le_of_sublist ((flatten_rawSegmentsAfterSlash_sublist layout raw).trans h))

/-! ### Authorities -/

/-- A text is cut into two parts in front of a port. -/
theorem cutHost_fst_append_snd (inside : Bool) (s : List Char) :
    (cutHost inside s).1 ++ (cutHost inside s).2 = s := by
  induction s generalizing inside with
  | nil => rfl
  | cons c s ih =>
    rw [cutHost]
    split
    · rfl
    · exact congrArg (c :: ·) (ih _)

theorem sublist_of_splitLogin {closed : Bool} {s place : List Char} {login : List Char × List Char}
    (h : splitLogin closed s = .ok (login, place)) : place.Sublist s := by
  rw [splitLogin] at h
  split at h
  · cases h
    exact List.Sublist.refl _
  · split at h
    · cases h
    · cases h
      exact List.nil_sublist s
  · next before rest hlast =>
    cases h
    obtain ⟨⟨behind, front⟩, hcut, heq⟩ := Option.map_eq_some_iff.1 hlast
    obtain ⟨rfl, rfl⟩ := Prod.mk.inj heq
    rw [← List.reverse_sublist, List.reverse_reverse, eq_of_splitFirst? hcut]
    exact List.sublist_append_left _ _

theorem sublist_of_readPortText {scheme s rest : List Char} {port : Option UInt16}
    (h : readPortText scheme s = .ok (port, rest)) : rest.Sublist s := by
  cases s with
  | nil =>
    cases h
    exact List.Sublist.refl _
  | cons c digits =>
    rw [readPortText, readPort] at h
    split at h
    · cases h
    · split at h
      all_goals
        cases h
        exact (List.dropWhile_sublist _).cons c

/-- What an authority leaves to the path is a part of it. -/
theorem sublist_of_readAuthority {layout : Layout} {scheme : List Char} {closed : Bool}
    {s rest : List Char} {a : Authority}
    (h : readAuthority layout scheme closed s = .ok (a, rest)) : rest.Sublist s := by
  rw [readAuthority_eq] at h
  obtain ⟨⟨login, place⟩, hlogin, h⟩ := exists_of_bind_eq_ok h
  dsimp only at h
  split at h
  · cases h
  obtain ⟨host, -, h⟩ := exists_of_bind_eq_ok h
  split at h
  · cases h
  obtain ⟨⟨port, behind⟩, hport, h⟩ := exists_of_bind_eq_ok h
  dsimp only at h
  split at h
  · cases h
  obtain rfl := (Prod.mk.inj (Except.ok.inj h)).2
  have hcut : (cutHost false place).2.Sublist place := by
    have := List.sublist_append_right (cutHost false place).1 (cutHost false place).2
    rwa [cutHost_fst_append_snd] at this
  exact (sublist_of_readPortText hport).trans (hcut.trans (sublist_of_splitLogin hlogin))

/-! ### Layouts -/

section Layouts

variable {scheme s : List Char} {closed : Bool} {authority : Option Authority} {path : Path}

theorem colons_of_readWeb (h : readWeb scheme closed s = .ok (authority, path)) :
    colons path.text ≤ colons s := by
  rw [readWeb_eq] at h
  generalize readAuthority _ _ _ _ = read at h
  cases read with
  | error fault => cases h
  | ok read =>
    obtain rfl := (Prod.mk.inj (Except.ok.inj h)).2
    exact colons_rawSegmentsAfterSlash_le .web _ _
      ((List.dropWhile_sublist _).trans (List.dropWhile_sublist _))

theorem colons_of_readFree (h : readFree scheme closed s = .ok (authority, path)) :
    colons path.text ≤ colons s := by
  unfold readFree at h
  split at h
  · next r =>
    obtain ⟨⟨a, stray⟩, hread, h⟩ := exists_of_bind_eq_ok h
    obtain rfl := (Prod.mk.inj (Except.ok.inj h)).2
    have hpath : (stray ++ r.dropWhile (· != '/')).Sublist ('/' :: '/' :: r) := by
      have := (sublist_of_readAuthority hread).append (List.Sublist.refl (r.dropWhile (· != '/')))
      rw [List.takeWhile_append_dropWhile] at this
      exact (this.cons _).cons _
    split
    · exact Nat.zero_le _
    · exact colons_rawSegmentsAfterSlash_le .free _ _ hpath
  · next r _ =>
    obtain rfl := (Prod.mk.inj (Except.ok.inj h)).2
    exact colons_rawSegments_le .free _ _ (List.sublist_cons_self _ _)
  · obtain rfl := (Prod.mk.inj (Except.ok.inj h)).2
    exact colons_escape_le _ _

/-- The raw segments behind two slashes, whether or not they hold a host. -/
theorem sublist_of_readFileHost {host : Host} {raw : List (List Char)}
    (h : readFileHost s = .ok (host, raw)) : raw.flatten.Sublist s := by
  have hpath : (s.dropWhile (!Layout.file.isSlash ·)).Sublist s := List.dropWhile_sublist _
  unfold readFileHost at h
  dsimp only at h
  split at h
  · obtain rfl := (Prod.mk.inj (Except.ok.inj h)).2
    exact flatten_rawSegments_sublist .file s
  split at h
  · obtain rfl := (Prod.mk.inj (Except.ok.inj h)).2
    exact (flatten_rawSegments_sublist .file _).trans hpath
  obtain ⟨host, -, h⟩ := exists_of_bind_eq_ok h
  split at h
  · obtain rfl := (Prod.mk.inj (Except.ok.inj h)).2
    exact (flatten_rawSegments_sublist .file _).trans hpath
  · obtain rfl := (Prod.mk.inj (Except.ok.inj h)).2
    exact (flatten_rawSegmentsAfterSlash_sublist .file _).trans hpath

theorem colons_of_readFile (h : readFile s = .ok (authority, path)) :
    colons path.text ≤ colons s := by
  unfold readFile at h
  dsimp only at h
  split at h
  · next a b r =>
    split at h
    · obtain ⟨⟨host, raw⟩, hraw, h⟩ := exists_of_bind_eq_ok h
      obtain rfl := (Prod.mk.inj (Except.ok.inj h)).2
      exact (Path.colons_text_ofSegments_le .file raw).trans
        (colons_le_of_sublist (((sublist_of_readFileHost hraw).cons _).cons _))
    · obtain rfl := (Prod.mk.inj (Except.ok.inj h)).2
      exact colons_rawSegmentsAfterSlash_le .file (a :: b :: r) _ (List.Sublist.refl _)
  · obtain rfl := (Prod.mk.inj (Except.ok.inj h)).2
    exact colons_rawSegmentsAfterSlash_le .file _ _ (List.Sublist.refl _)

theorem colons_of_readBody (h : readBody scheme closed s = .ok (authority, path)) :
    colons path.text ≤ colons s := by
  rw [readBody] at h
  split at h
  · exact colons_of_readWeb h
  · exact colons_of_readFree h
  · exact colons_of_readFile h

end Layouts

/-! ### URLs -/

theorem clean_sublist (s : List Char) : (clean s).Sublist s := by
  rw [clean]
  refine List.filter_sublist.trans ?_
  rw [← List.reverse_sublist, List.reverse_reverse]
  exact (List.dropWhile_sublist _).trans (List.reverse_sublist.2 (List.dropWhile_sublist _))

theorem cutAt_sublist (c : Char) (s : List Char) :
    (cutAt c s).1.Sublist s ∧ ∀ part ∈ (cutAt c s).2, part.Sublist s := by
  rw [cutAt]
  split
  · next a b hcut =>
    rw [eq_of_splitFirst? hcut]
    refine ⟨List.sublist_append_left _ _, ?_⟩
    rintro part ⟨rfl⟩
    exact (List.sublist_cons_self _ _).trans (List.sublist_append_right _ _)
  · exact ⟨List.Sublist.refl _, by simp⟩

/-- The colon behind the scheme belongs to no part of a URL. -/
theorem sublist_of_scheme? {s scheme rest : List Char} (h : scheme? s = some (scheme, rest)) :
    (':' :: rest).Sublist s := by
  unfold scheme? at h
  split at h
  · next a b hcut =>
    split at h
    · cases h
      rw [eq_of_splitFirst? hcut]
      exact List.sublist_append_right _ _
    · cases h
  · cases h

theorem exists_scheme?_of_read {s : List Char} {u : Url} (h : read s = .ok u) :
    ∃ scheme rest, scheme? (clean s) = some (scheme, rest) := by
  cases hscheme : scheme? (clean s) with
  | none =>
    rw [read, hscheme] at h
    cases h
  | some cut => exact ⟨cut.1, cut.2, rfl⟩

section

variable {s : List Char} {u : Url}

/-- **A path has fewer colons than the text of its URL.** -/
theorem colons_path_lt_of_read (h : read s = .ok u) : colons u.path.text < colons s := by
  obtain ⟨scheme, rest, hscheme⟩ := exists_scheme?_of_read h
  rw [read_of_scheme? hscheme] at h
  generalize hbody : readBody _ _ _ = read at h
  cases read with
  | error fault => cases h
  | ok body =>
    obtain rfl := Except.ok.inj h
    have hpath := colons_of_readBody hbody
    have hrest := colons_le_of_sublist
      ((cutAt_sublist '?' (cutAt '#' rest).1).1.trans (cutAt_sublist '#' rest).1)
    have htext := colons_le_of_sublist ((sublist_of_scheme? hscheme).trans (clean_sublist s))
    have hcolon : colons (':' :: rest) = colons rest + 1 := List.countP_cons_of_pos rfl
    show colons body.2.text < colons s
    omega

/-- **The pairs of a URL** are those of a text that is shorter than its own. -/
theorem exists_query_of_read (h : read s = .ok u) :
    ∃ query, u.pairs = Form.decodePairs query ∧ query.length < s.length := by
  obtain ⟨scheme, rest, hscheme⟩ := exists_scheme?_of_read h
  have htext := ((sublist_of_scheme? hscheme).trans (clean_sublist s)).length_le
  rw [List.length_cons] at htext
  rw [read_of_scheme? hscheme] at h
  generalize readBody _ _ _ = read at h
  cases read with
  | error fault => cases h
  | ok body =>
    obtain rfl := Except.ok.inj h
    rw [pairs]
    cases hquery : (cutAt '?' (cutAt '#' rest).1).2 with
    | none => exact ⟨[], rfl, by rw [List.length_nil]; omega⟩
    | some query =>
      refine ⟨query, ?_, ?_⟩
      · refine Escape.decodePairs_escape ?_ query
        split <;> decide
      · have := ((cutAt_sublist '?' _).2 query hquery).length_le
        have := (cutAt_sublist '#' rest).1.length_le
        omega

end

end Unscramble.Url

import Unscramble.Proofs.Pattern.Classes
import Unscramble.Proofs.Url.Parts
import Unscramble.Video

/-!
# Which ids name themselves

Whoever has looked up the id that a text names may hand it on as a text, to be looked up again. That
gives the same id only if it is one as it stands, with its eleven characters; and the id that a URL
gives need not be one. It is whatever stands where the id belongs: a text of any length, and in a
watch page also the empty one.

No other text can name itself. It would have to be a URL that holds its own text as a part, and each
part of a URL is less than the whole: a path has fewer colons than its URL, and a value of the query
is shorter.

## Main definitions

* `isWatchPage`: a page whose id is in its query.

## Main statements

* `idOf_of_isId`: an id names itself, and `idOf_eq_self_iff`: nothing else does.
* `idOf_again_iff`: when an id that was found names itself, and when it is empty.
-/

namespace Unscramble.Video

open Unscramble.Text

/-! ### Ids -/

theorem toNat_lt_of_isIdChar {c : Char} (h : isIdChar c = true) : c.toNat < 0x80 := by
  simp only [isIdChar, Bool.or_eq_true, beq_iff_eq] at h
  rcases h with (h | rfl) | rfl
  · exact Pattern.toNat_lt_of_isAlphanum h
  · decide
  · decide

/-- The characters of an id are neither white space nor a colon. -/
theorem isBlank_eq_false {c : Char} (h : isIdChar c = true) : isBlank c = false ∧ c ≠ ':' := by
  have hall : ∀ n < 0x80, isIdChar (Char.ofNat n) = true →
      isBlank (Char.ofNat n) = false ∧ Char.ofNat n ≠ ':' := by
    decide +kernel
  exact forall_ascii (P := fun c ↦ isIdChar c = true → isBlank c = false ∧ c ≠ ':') hall
    (toNat_lt_of_isIdChar h) h

theorem trim_of_isId {s : List Char} (h : isId s = true) : trim s = s := by
  rw [isId, Bool.and_eq_true, List.all_eq_true] at h
  exact trim_eq_self (fun c hc ↦ (isBlank_eq_false (h.2 c (List.mem_of_mem_head? hc))).1)
    fun c hc ↦ (isBlank_eq_false (h.2 c (List.mem_of_mem_getLast? hc))).1

/-- **An id names itself.** -/
theorem idOf_of_isId {s : List Char} (h : isId s = true) : idOf s = .ok s := by
  rw [idOf, trim_of_isId h, if_pos h]

/-- A URL is no id, as it has a colon. -/
theorem isId_eq_false_of_read {s : List Char} {u : Url} (h : Url.read s = .ok u) :
    isId s = false := by
  rw [Bool.eq_false_iff]
  intro hid
  rw [isId, Bool.and_eq_true, List.all_eq_true] at hid
  obtain ⟨scheme, rest, hscheme⟩ := Url.exists_scheme?_of_read h
  have hcolon : ':' ∈ s := ((Url.sublist_of_scheme? hscheme).trans (Url.clean_sublist s)).subset
    List.mem_cons_self
  exact (isBlank_eq_false (hid.2 ':' hcolon)).2 rfl

/-- What a text names that is no id is the id in its URL. -/
theorem exists_read_of_idOf {s id : List Char} (hs : isId (trim s) = false) (h : idOf s = .ok id) :
    ∃ u, Url.read (trim s) = .ok u ∧ idOfUrl u = .ok id := by
  rw [idOf, hs, if_neg Bool.false_ne_true] at h
  split at h
  · next u hread => exact ⟨u, hread, h⟩
  · cases h

theorem idOf_of_read {s : List Char} {u : Url} (h : Url.read (trim s) = .ok u) :
    idOf s = idOfUrl u := by
  rw [idOf, isId_eq_false_of_read h, if_neg Bool.false_ne_true, h]

/-! ### Pages -/

theorem idOfUrl_of_longHost {u : Url} {host : List Char} (h : u.host? = some host)
    (hlong : host ∈ longHosts) : idOfUrl u = longId u := by
  have hne : host ≠ shortHost := by
    rintro rfl
    revert hlong
    decide
  rw [idOfUrl, h]
  dsimp only
  rw [if_neg hne, if_pos (List.contains_iff_mem.2 hlong)]

/-- A page of a long host that has its id in its query. -/
def isWatchPage (u : Url) : Bool :=
  u.host?.any longHosts.contains && ("/watch".toList).isPrefixOf u.path.text

theorem idOfUrl_of_isWatchPage {u : Url} (h : isWatchPage u = true) :
    idOfUrl u = match Form.lookup? ['v'] u.pairs with
      | some id => .ok id
      | none => .error .noQueryId := by
  rw [isWatchPage, Bool.and_eq_true] at h
  obtain ⟨hhost, hpath⟩ := h
  cases hu : u.host? with
  | none =>
    rw [hu] at hhost
    cases hhost
  | some host =>
    rw [hu, Option.any_some, List.contains_iff_mem] at hhost
    exact (idOfUrl_of_longHost hu hhost).trans (if_pos hpath)

/-- **The id in a page** is the value of a watch page, or a part of the path that is not empty. -/
theorem watch_or_path_of_idOfUrl {u : Url} {id : List Char} (h : idOfUrl u = .ok id) :
    (isWatchPage u = true ∧ Form.lookup? ['v'] u.pairs = some id) ∨
      (isWatchPage u = false ∧ id ≠ [] ∧ id.Sublist u.path.text) := by
  cases hwatch : isWatchPage u with
  | true =>
    rw [idOfUrl_of_isWatchPage hwatch] at h
    split at h
    · next value hvalue => exact .inl ⟨rfl, hvalue.trans (congrArg some (Except.ok.inj h))⟩
    · cases h
  | false =>
    refine .inr ⟨rfl, ?_⟩
    unfold idOfUrl at h
    split at h
    · cases h
    next host hhost =>
    split at h
    · unfold shortId at h
      split at h
      · cases h
      · next hne =>
        cases h
        exact ⟨hne, List.dropWhile_sublist _⟩
    split at h
    · next hlong =>
      unfold longId at h
      dsimp only at h
      rw [isWatchPage, hhost, Option.any_some, hlong, Bool.true_and] at hwatch
      rw [hwatch, if_neg Bool.false_ne_true] at h
      split at h
      · next rest hrest =>
        obtain ⟨start, -, hstrip⟩ := List.exists_of_findSome?_eq_some hrest
        split at h
        · cases h
        · next hne =>
          cases h
          refine ⟨hne, ?_⟩
          rw [strip?_eq_some hstrip]
          exact (List.takeWhile_sublist _).trans (List.sublist_append_right _ _)
      · cases h
    · cases h

/-- **Only an id names itself.** -/
theorem idOf_eq_self_iff {s : List Char} : idOf s = .ok s ↔ isId s = true := by
  refine ⟨fun h ↦ ?_, idOf_of_isId⟩
  cases hs : isId (trim s) with
  | true =>
    rw [idOf, hs, if_pos rfl] at h
    rwa [Except.ok.inj h] at hs
  | false =>
    obtain ⟨u, hread, hid⟩ := exists_read_of_idOf hs h
    have htrim := trim_sublist s
    rcases watch_or_path_of_idOfUrl hid with ⟨-, hvalue⟩ | ⟨-, -, hpath⟩
    · obtain ⟨query, hpairs, hlength⟩ := Url.exists_query_of_read hread
      obtain ⟨pair, hpair, rfl⟩ := Option.map_eq_some_iff.1 hvalue
      have := Form.length_le_of_mem_decodePairs (hpairs ▸ List.mem_of_find?_eq_some hpair)
      have := htrim.length_le
      omega
    · have := Url.colons_path_lt_of_read hread
      have := Url.colons_le_of_sublist hpath
      have := Url.colons_le_of_sublist htrim
      omega

/-! ### Ids that were found -/

/-- **When an id that was found names itself**: if it is one as it stands. It is empty for watch
pages with an empty value. -/
theorem idOf_again_iff {s id : List Char} (h : idOf s = .ok id) :
    (idOf id = .ok id ↔ isId id = true) ∧
      (id = [] ↔ ∃ u, Url.read (trim s) = .ok u ∧ isWatchPage u = true ∧
        Form.lookup? ['v'] u.pairs = some []) := by
  refine ⟨idOf_eq_self_iff, ?_, ?_⟩
  · rintro rfl
    have hs : isId (trim s) = false := by
      rw [Bool.eq_false_iff]
      intro hs
      rw [idOf, hs, if_pos rfl] at h
      rw [Except.ok.inj h] at hs
      cases hs
    obtain ⟨u, hread, hid⟩ := exists_read_of_idOf hs h
    rcases watch_or_path_of_idOfUrl hid with ⟨hwatch, hvalue⟩ | ⟨-, hne, -⟩
    · exact ⟨u, hread, hwatch, hvalue⟩
    · exact absurd rfl hne
  · rintro ⟨u, hread, hwatch, hvalue⟩
    rw [idOf_of_read hread, idOfUrl_of_isWatchPage hwatch, hvalue] at h
    exact (Except.ok.inj h).symm

/-- The id in a watch page with an empty value names nothing. -/
theorem idOf_again_empty :
    idOf "https://www.youtube.com/watch?v=".toList = .ok [] ∧ idOf [] ≠ .ok [] := by
  have h : idOf "https://www.youtube.com/watch?v=".toList = .ok [] := by decide +kernel
  exact ⟨h, fun hagain ↦ absurd ((idOf_again_iff h).1.1 hagain) (by decide)⟩

end Unscramble.Video

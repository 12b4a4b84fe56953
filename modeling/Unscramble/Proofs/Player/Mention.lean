import Mathlib.Order.WellFounded
import Unscramble.Player.Page
import Unscramble.Proofs.Pattern.Occurrence
import Unscramble.Proofs.Text.Spelled
import Unscramble.Proofs.Text.Split

/-!
# Mentions of a script

A page mentions its script in one of two forms, as a path in quotes or as the value of `jsUrl`. Both
are an opening, a text without quotes, and a quote behind it. Where such a mention begins, the quote
behind it is the next one, so the text of a mention is fixed by its place.

The two searches go through a page from left to right and look at nothing but the text up to the
next quote. Each finds the first mention of its form all the same, as its test is met exactly where
such a mention begins. Each is also the search for a pattern: what the group of the pattern captures
is the text of the first mention.

## Main definitions

* `Mention`: a form in which a page mentions a script.
* `Mention.Begins`, `Mention.StandsAt`: a mention with its text, at the beginning or anywhere.
* `Mention.IsFirst`: the text of the first mention in a page.

## Main statements

* `Mention.Begins.unique`: the text of a mention is fixed by its place.
* `scriptPath?_eq_some_iff`, `jsUrl?_eq_some_iff`: the searches find the first mentions.
* `exists_read_scriptPattern`, `exists_read_jsUrlPattern`: they are searches for patterns.
-/

namespace Unscramble.Player

open Unscramble.Text Unscramble.Pattern

/-! ### Mentions -/

/-- A form in which a page mentions a script: what stands in front of a text, and what the text
looks like. A quote stands behind it, and none is in it. -/
structure Mention where
  opening : List Char
  Fits : List Char → Prop
  quote_notMem : ∀ {path}, Fits path → '"' ∉ path

namespace Mention

/-- A path in quotes: a slash, any characters but quotes and angle brackets, and `/base.js`. -/
def script : Mention where
  opening := ['"']
  Fits path := ∃ middle, path = '/' :: (middle ++ "/base.js".toList) ∧
    ∀ c ∈ middle, c ≠ '"' ∧ c ≠ '<' ∧ c ≠ '>'
  quote_notMem := by
    rintro _ ⟨middle, rfl, hmiddle⟩ h
    rcases List.mem_cons.1 h with h | h
    · exact absurd h (by decide)
    rcases List.mem_append.1 h with h | h
    · exact (hmiddle _ h).1 rfl
    · exact absurd h (by decide)

/-- A value of `jsUrl`: any characters but quotes, and one at least. -/
def jsUrl : Mention where
  opening := "\"jsUrl\":\"".toList
  Fits url := url ≠ [] ∧ '"' ∉ url
  quote_notMem h := h.2

variable (m : Mention) {s page path path' : List Char} {c : Char} {r : List Char}

/-- A text begins with a mention of `path`. -/
def Begins (s path : List Char) : Prop :=
  m.Fits path ∧ ∃ after, s = m.opening ++ (path ++ '"' :: after)

/-- A mention of `path` begins behind the first `offset` characters of a page. -/
def StandsAt (page : List Char) (offset : ℕ) (path : List Char) : Prop :=
  ∃ before s, page = before ++ s ∧ before.length = offset ∧ m.Begins s path

/-- The first mention in a page is one of `path`. -/
def IsFirst (page path : List Char) : Prop :=
  ∃ offset, m.StandsAt page offset path ∧
    ∀ offset' path', m.StandsAt page offset' path' → offset ≤ offset'

variable {m}

theorem not_begins_nil : ¬ m.Begins [] path := by
  rintro ⟨-, after, h⟩
  simp at h

/-- **The text of a mention is fixed by its place**: it ends at the next quote. -/
theorem Begins.unique (h : m.Begins s path) (h' : m.Begins s path') : path = path' := by
  obtain ⟨hfits, after, rfl⟩ := h
  obtain ⟨hfits', after', heq⟩ := h'
  exact eq_of_append_cons_eq (List.append_cancel_left heq) (bne_of_notMem (m.quote_notMem hfits))
    (bne_of_notMem (m.quote_notMem hfits')) rfl rfl

theorem standsAt_zero_iff : m.StandsAt page 0 path ↔ m.Begins page path := by
  constructor
  · rintro ⟨before, s, rfl, hlength, h⟩
    rwa [List.length_eq_zero_iff.1 hlength, List.nil_append]
  · exact fun h ↦ ⟨[], page, rfl, rfl, h⟩

theorem standsAt_succ_iff {offset : ℕ} :
    m.StandsAt (c :: r) (offset + 1) path ↔ m.StandsAt r offset path := by
  constructor
  · rintro ⟨_ | ⟨d, before⟩, s, heq, hlength, h⟩
    · cases hlength
    · exact ⟨before, s, (List.cons.inj heq).2, Nat.succ.inj hlength, h⟩
  · rintro ⟨before, s, rfl, rfl, h⟩
    exact ⟨c :: before, s, rfl, rfl, h⟩

theorem not_standsAt_nil {offset : ℕ} : ¬ m.StandsAt [] offset path := by
  rintro ⟨before, s, heq, -, h⟩
  rw [(List.append_eq_nil_iff.1 heq.symm).2] at h
  exact not_begins_nil h

/-- Where there are mentions, there is a first one. -/
theorem exists_isFirst {offset : ℕ} (h : m.StandsAt page offset path) :
    ∃ path, m.IsFirst page path := by
  obtain ⟨least, ⟨first, hfirst⟩, hleast⟩ :=
    wellFounded_lt.has_min {n | ∃ path, m.StandsAt page n path} ⟨offset, path, h⟩
  exact ⟨first, least, hfirst, fun n other hother ↦ Nat.not_lt.1 (hleast n ⟨other, hother⟩)⟩

/-- **The first mention** in a page is one that the page begins with, if there is such a one, and
else the first behind its first character. -/
theorem isFirst_cons_iff : m.IsFirst (c :: r) path ↔
    m.Begins (c :: r) path ∨ (∀ path', ¬ m.Begins (c :: r) path') ∧ m.IsFirst r path := by
  constructor
  · rintro ⟨offset, h, hleast⟩
    cases offset with
    | zero => exact .inl (standsAt_zero_iff.1 h)
    | succ offset =>
      refine .inr ⟨fun path' h' ↦ ?_, offset, standsAt_succ_iff.1 h, fun n path' h' ↦ ?_⟩
      · exact absurd (hleast 0 path' (standsAt_zero_iff.2 h')) (by omega)
      · exact Nat.le_of_succ_le_succ (hleast (n + 1) path' (standsAt_succ_iff.2 h'))
  · rintro (h | ⟨hnone, offset, h, hleast⟩)
    · exact ⟨0, standsAt_zero_iff.2 h, fun n _ _ ↦ Nat.zero_le n⟩
    · refine ⟨offset + 1, standsAt_succ_iff.2 h, fun n path' h' ↦ ?_⟩
      cases n with
      | zero => exact absurd (standsAt_zero_iff.1 h') (hnone path')
      | succ n => exact Nat.succ_le_succ (hleast n path' (standsAt_succ_iff.1 h'))

theorem not_isFirst_nil : ¬ m.IsFirst [] path := by
  rintro ⟨offset, h, -⟩
  exact not_standsAt_nil h

/-- **A search that goes from place to place** finds the first mention, if at each place it finds
what the text there begins with. -/
theorem eq_some_iff_isFirst {here? search? : List Char → Option (List Char)}
    (hhere : ∀ {s path}, here? s = some path ↔ m.Begins s path) (hnil : search? [] = none)
    (hcons : ∀ c r, search? (c :: r) = (here? (c :: r)).or (search? r)) :
    search? page = some path ↔ m.IsFirst page path := by
  induction page with
  | nil => exact ⟨fun h ↦ (Option.some_ne_none path (h.symm.trans hnil)).elim,
      fun h ↦ (not_isFirst_nil h).elim⟩
  | cons c r ih =>
    have hnone : here? (c :: r) = none ↔ ∀ path', ¬ m.Begins (c :: r) path' := by
      simp only [Option.eq_none_iff_forall_ne_some, ne_eq, hhere]
    rw [hcons, Option.or_eq_some_iff, hhere, hnone, ih, isFirst_cons_iff]

end Mention

/-! ### The searches -/

/-- A text in quotes ends at the next quote. -/
theorem quoted?_eq_some_iff {r inside : List Char} :
    quoted? r = some inside ↔ '"' ∉ inside ∧ ∃ after, r = inside ++ '"' :: after := by
  have hcut {w : List Char} (hw : '"' ∉ w) (after : List Char) :
      quoted? (w ++ '"' :: after) = some w := by
    rw [quoted?, takeWhile_bne_append_cons hw, if_pos (by simp)]
  constructor
  · intro h
    by_cases hquote : '"' ∈ r
    · obtain ⟨w, after, rfl, hw⟩ := List.eq_append_cons_of_mem hquote
      obtain rfl : w = inside := Option.some.inj ((hcut hw after).symm.trans h)
      exact ⟨hw, after, rfl⟩
    · rw [quoted?, takeWhile_bne_of_notMem hquote, if_neg (Nat.lt_irrefl _)] at h
      cases h
  · rintro ⟨hinside, after, rfl⟩
    exact hcut hinside after

/-- What is tested at a place is what a mention there would be. -/
theorem Mention.bind_strip?_eq_some_iff {m : Mention} {test : List Char → Bool}
    (htest : ∀ {path}, '"' ∉ path → (test path = true ↔ m.Fits path)) {s path : List Char} :
    ((strip? m.opening s).bind fun rest ↦ (quoted? rest).filter test) = some path ↔
      m.Begins s path := by
  rw [Option.bind_eq_some_iff]
  constructor
  · rintro ⟨rest, hrest, h⟩
    obtain ⟨hquoted, hpath⟩ := Option.filter_eq_some_iff.1 h
    obtain ⟨hnotMem, after, rfl⟩ := quoted?_eq_some_iff.1 hquoted
    exact ⟨(htest hnotMem).1 hpath, after, strip?_eq_some hrest⟩
  · rintro ⟨hfits, after, rfl⟩
    have hnotMem := m.quote_notMem hfits
    exact ⟨_, strip?_append _ _, Option.filter_eq_some_iff.2
      ⟨quoted?_eq_some_iff.2 ⟨hnotMem, after, rfl⟩, (htest hnotMem).2 hfits⟩⟩

/-- The paths that are looked for have one slash in front and another one at their end. -/
theorem isScriptPath_iff {path : List Char} (h : '"' ∉ path) :
    isScriptPath path = true ↔ Mention.script.Fits path := by
  have hend : ∀ c ∈ scriptEnd, ¬ (c == '<' || c == '>') = true := forall_mem_of_all rfl
  constructor
  · intro hpath
    unfold isScriptPath at hpath
    split at hpath
    · next r =>
      obtain ⟨hsuffix, hany⟩ := Bool.and_eq_true_iff.1 hpath
      obtain ⟨middle, rfl⟩ := List.isSuffixOf_iff_suffix.1 hsuffix
      rw [Bool.not_eq_true'] at hany
      refine ⟨middle, rfl, fun c hc ↦ ⟨?_, ?_⟩⟩
      · exact ne_of_mem_of_not_mem (List.mem_cons_of_mem _ (List.mem_append_left _ hc)) h
      · have hbracket := List.any_eq_false.1 hany c (List.mem_append_left _ hc)
        rwa [Bool.or_eq_true, not_or, beq_iff_eq, beq_iff_eq] at hbracket
    · cases hpath
  · rintro ⟨middle, rfl, hmiddle⟩
    have hsuffix : scriptEnd.isSuffixOf (middle ++ scriptEnd) = true :=
      List.isSuffixOf_iff_suffix.2 (List.suffix_append middle scriptEnd)
    have hany : (middle ++ scriptEnd).any (fun c ↦ c == '<' || c == '>') = false := by
      rw [List.any_eq_false]
      intro c hc
      rcases List.mem_append.1 hc with hc | hc
      · rw [Bool.or_eq_true, not_or, beq_iff_eq, beq_iff_eq]
        exact (hmiddle c hc).2
      · exact hend c hc
    show (scriptEnd.isSuffixOf (middle ++ scriptEnd) && !(middle ++ scriptEnd).any _) = true
    rw [hsuffix, hany]
    rfl

/-- **The search for a path in quotes** finds the first mention of that form. -/
theorem scriptPath?_eq_some_iff {page path : List Char} :
    scriptPath? page = some path ↔ Mention.script.IsFirst page path := by
  refine Mention.eq_some_iff_isFirst (Mention.bind_strip?_eq_some_iff isScriptPath_iff) rfl
    fun c r ↦ ?_
  have hhere : (if c = '"' then (quoted? r).filter isScriptPath else none) =
      (strip? Mention.script.opening (c :: r)).bind fun rest ↦
        (quoted? rest).filter isScriptPath := by
    by_cases hc : c = '"'
    · subst hc
      rfl
    · rw [if_neg hc, show Mention.script.opening = ['"'] from rfl, strip?, if_neg (Ne.symm hc)]
      rfl
  rw [scriptPath?, hhere]
  cases (strip? Mention.script.opening (c :: r)).bind _ <;> rfl

/-- **The search for `jsUrl`** finds the first mention of that form. -/
theorem jsUrl?_eq_some_iff {page path : List Char} :
    jsUrl? page = some path ↔ Mention.jsUrl.IsFirst page path := by
  have htest {url : List Char} (h : '"' ∉ url) :
      (!url.isEmpty) = true ↔ Mention.jsUrl.Fits url := by
    rw [Bool.not_eq_true', List.isEmpty_eq_false_iff]
    exact (and_iff_left h).symm
  refine Mention.eq_some_iff_isFirst (Mention.bind_strip?_eq_some_iff htest) rfl fun c r ↦ ?_
  rw [jsUrl?, show jsUrlStart = Mention.jsUrl.opening from rfl]
  cases (strip? Mention.jsUrl.opening (c :: r)).bind _ <;> rfl

/-- A search that finds the first mentions finds nothing only where there is none. -/
theorem Mention.eq_none_iff {m : Mention} {page : List Char}
    {search? : List Char → Option (List Char)}
    (hsearch : ∀ {path}, search? page = some path ↔ m.IsFirst page path) :
    search? page = none ↔ ∀ offset path, ¬ m.StandsAt page offset path := by
  constructor
  · intro hnone offset path h
    obtain ⟨first, hfirst⟩ := exists_isFirst h
    exact Option.some_ne_none first ((hsearch.2 hfirst).symm.trans hnone)
  · intro h
    rw [Option.eq_none_iff_forall_ne_some]
    intro path hpath
    obtain ⟨offset, hstands, -⟩ := hsearch.1 hpath
    exact h offset path hstands

/-! ### The patterns

Each search is a search for a pattern: the opening, a group for the text, and the quote. -/

namespace Mention

variable (m : Mention) (as : List Piece)

/-- The pattern of a form, if what fits is spelled by a sequence of classes. -/
def node : Node :=
  Node.cats (Node.word m.opening ++ [.group 1 (Node.cats (as.map Piece.node)), .char '"'])

variable {m as} {p q : Place} {s path : List Char}

/-- A run goes along a mention and captures its text. -/
theorem begins_of_mem_runs (hspells : ∀ {w}, Spells as w → m.Fits w)
    (h : q ∈ (m.node as).runs p) : ∃ path, m.Begins p.rest path ∧ q.captured? 1 = some path := by
  obtain ⟨rest, hp, hq⟩ := Node.mem_runs_word.1 h
  obtain ⟨closed, hclosed, hq⟩ := Node.mem_runs_cats_cons.1 hq
  obtain ⟨inside, hinside, rfl⟩ := Node.mem_runs_group.1 hclosed
  obtain ⟨path, rest', hrest, hpath, rfl⟩ := Node.mem_runs_pieces.1 hinside
  obtain ⟨after, hafter, rfl⟩ := Node.mem_runs_char.1 hq
  obtain rfl : rest' = '"' :: after := hafter
  obtain rfl : rest = path ++ '"' :: after := hrest
  exact ⟨path, ⟨hspells hpath, after, hp⟩, Place.captured?_close_self rfl 1 _ rfl⟩

/-- Along each mention there is a run. -/
theorem exists_mem_runs_of_begins (hspells : ∀ {w}, m.Fits w → Spells as w)
    (h : m.Begins p.rest path) : ∃ q, q ∈ (m.node as).runs p := by
  obtain ⟨hfits, after, hp⟩ := h
  have hgroup : ∃ closed, closed ∈ (Node.group 1 (Node.cats (as.map Piece.node))).runs
      (p.after m.opening (path ++ '"' :: after)) ∧ closed.rest = '"' :: after :=
    ⟨_, Node.mem_runs_group.2
      ⟨_, Node.mem_runs_pieces.2 ⟨path, '"' :: after, rfl, hspells hfits, rfl⟩, rfl⟩, rfl⟩
  obtain ⟨closed, hclosed, hrest⟩ := hgroup
  exact ⟨_, Node.mem_runs_word.2 ⟨_, hp, Node.mem_runs_cats_cons.2
    ⟨closed, hclosed, Node.mem_runs_char.2 ⟨after, hrest, rfl⟩⟩⟩⟩

/-- Where a mention begins, the best run captures its text, and elsewhere there is no run. -/
theorem first_node_cases (hspells : ∀ {w}, Spells as w ↔ m.Fits w) (p : Place) :
    (∃ q path, (m.node as).first p some = some q ∧ q.captured? 1 = some path ∧
      m.Begins p.rest path) ∨
    (m.node as).first p some = none ∧ ∀ path, ¬ m.Begins p.rest path := by
  rcases hfirst : (m.node as).first p some with - | q
  · have hnone := Node.not_exists_of_first_eq_none hfirst
    exact .inr ⟨rfl, fun path h ↦ hnone (exists_mem_runs_of_begins hspells.2 h)⟩
  · obtain ⟨q', hq', hsome⟩ := Node.exists_mem_runs_of_first hfirst
    obtain rfl : q' = q := Option.some.inj hsome
    obtain ⟨path, hbegins, hcaptured⟩ := begins_of_mem_runs hspells.1 hq'
    exact .inl ⟨q', path, rfl, hcaptured, hbegins⟩

/-- **A search for the pattern captures the text of the first mention.** -/
theorem captured?_search_iff (hspells : ∀ {w}, Spells as w ↔ m.Fits w) {last : Option Char}
    {offset : ℕ} : ((m.node as).search last offset s).bind (·.captured? 1) = some path ↔
      m.IsFirst s path := by
  induction s generalizing last offset with
  | nil =>
    rw [Node.search]
    obtain ⟨_, _, -, -, hbegins⟩ | ⟨hnone, -⟩ := first_node_cases hspells ⟨last, [], offset, [], []⟩
    · exact (not_begins_nil hbegins).elim
    · rw [hnone, Option.bind_none]
      exact iff_of_false (Option.some_ne_none path).symm not_isFirst_nil
  | cons c r ih =>
    rw [Node.search, isFirst_cons_iff]
    obtain ⟨q, found, hfirst, hcaptured, hbegins⟩ | ⟨hfirst, hnone⟩ :=
      first_node_cases hspells ⟨last, c :: r, offset, [], []⟩
    · rw [hfirst]
      show q.captured? 1 = some path ↔ _
      rw [hcaptured, Option.some.injEq]
      constructor
      · rintro rfl
        exact .inl hbegins
      · rintro (h | ⟨hnone, -⟩)
        · exact hbegins.unique h
        · exact (hnone found hbegins).elim
    · rw [hfirst]
      exact ih.trans ⟨fun h ↦ .inr ⟨hnone, h⟩, fun h ↦ h.elim (fun h ↦ (hnone path h).elim) (·.2)⟩

/-- A search that finds the first mentions is the search for the pattern. -/
theorem captured?_find?_eq (hspells : ∀ {w}, Spells as w ↔ m.Fits w)
    {search? : List Char → Option (List Char)}
    (hsearch : ∀ {page path}, search? page = some path ↔ m.IsFirst page path)
    {names : List (List Char × ℕ)} (page : List Char) :
    (Pattern.find? ⟨m.node as, names⟩ page).bind (·.captured? 1) = search? page :=
  Option.ext fun _ ↦ (captured?_search_iff hspells).trans hsearch.symm

end Mention

/-- What a path may have before its end. -/
def pathClass : CharClass :=
  .not (.union (.union (.only '"') (.only '<')) (.only '>'))

theorem has_pathClass {c : Char} :
    pathClass.has c = true ↔ c ≠ '"' ∧ c ≠ '<' ∧ c ≠ '>' := by
  simp [pathClass, CharClass.has, and_assoc]

/-- A slash, any characters, and the end of a path. -/
def scriptPieces : List Piece :=
  .char '/' :: .any pathClass :: Piece.text "/base.js".toList

theorem spells_scriptPieces {w : List Char} :
    Spells scriptPieces w ↔ Mention.script.Fits w := by
  constructor
  · intro h
    obtain ⟨_, rfl, middle, v, rfl, hmiddle, hv⟩ := spells_char_cons.1 h
    rw [spells_text.1 hv]
    exact ⟨middle, rfl, fun c hc ↦ has_pathClass.1 (hmiddle c hc)⟩
  · rintro ⟨middle, rfl, hmiddle⟩
    exact spells_char_cons.2
      ⟨_, rfl, middle, _, rfl, fun c hc ↦ has_pathClass.2 (hmiddle c hc), spells_text.2 rfl⟩

/-- Characters that are no quotes, and one at least. -/
def jsUrlPieces : List Piece :=
  [.some (.not (.only '"'))]

theorem spells_jsUrlPieces {w : List Char} : Spells jsUrlPieces w ↔ Mention.jsUrl.Fits w := by
  have hclass {c : Char} : (CharClass.not (.only '"')).has c = true ↔ c ≠ '"' := by
    simp [CharClass.has]
  constructor
  · rintro ⟨w, _, rfl, ⟨hne, hw⟩, rfl⟩
    rw [List.append_nil]
    exact ⟨hne, fun hquote ↦ hclass.1 (hw _ hquote) rfl⟩
  · rintro ⟨hne, hquote⟩
    exact ⟨w, [], (List.append_nil w).symm,
      ⟨hne, fun c hc ↦ hclass.2 (ne_of_mem_of_not_mem hc hquote)⟩, rfl⟩

/-- The pattern for a path in quotes. -/
def scriptPattern : String :=
  r#""(/[^"<>]*/base\.js)""#

/-- The pattern for a value of `jsUrl`. -/
def jsUrlPattern : String :=
  r#""jsUrl":"([^"]+)""#

/-- **The search for a path in quotes is a search for a pattern**, of which it returns what the
group captures. -/
theorem exists_read_scriptPattern : ∃ pattern, Pattern.read scriptPattern.toList = .ok pattern ∧
    ∀ page, (pattern.find? page).bind (·.captured? 1) = scriptPath? page := by
  refine ⟨⟨Mention.script.node scriptPieces, []⟩, ?_,
    Mention.captured?_find?_eq spells_scriptPieces scriptPath?_eq_some_iff⟩
  rw [(Spelled.of rfl : Spelled scriptPattern).toList_eq]
  rfl

/-- **The search for `jsUrl` is a search for a pattern**, of which it returns what the group
captures. -/
theorem exists_read_jsUrlPattern : ∃ pattern, Pattern.read jsUrlPattern.toList = .ok pattern ∧
    ∀ page, (pattern.find? page).bind (·.captured? 1) = jsUrl? page := by
  refine ⟨⟨Mention.jsUrl.node jsUrlPieces, []⟩, ?_,
    Mention.captured?_find?_eq spells_jsUrlPieces jsUrl?_eq_some_iff⟩
  rw [(Spelled.of rfl : Spelled jsUrlPattern).toList_eq]
  rfl

end Unscramble.Player

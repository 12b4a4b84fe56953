import Unscramble.Proofs.Player.Mention

/-!
# Which script a page names

The first path in quotes counts, wherever values of `jsUrl` stand, and the first value of `jsUrl`
only if there is no such path. What is found is a path as it is written in JSON. Its escaped slashes
are read before it is looked at, so they can make it a path from the root, or one on the secure web.

## Main definitions

* `Unescaped`: the text that is written with slashes which may be escaped.
* `Leads`: where a path leads from a base URL.
* `Names`: the path that a page names.
* `Locates`: what a page comes to.

## Main statements

* `replaceAll_eq_iff_unescaped`, `absolute_eq_iff_leads`: both are computed.
* `outcome_scriptUrl_iff`: the script that a page names.
-/

namespace Unscramble.Player

open Unscramble.Text

/-! ### What a path stands for -/

/-- The text that is written with slashes which may be escaped. Each escaped slash is read once,
from left to right. -/
inductive Unescaped : List Char → List Char → Prop
  | nil : Unescaped [] []
  | slash {s t} (h : Unescaped s t) : Unescaped ('\\' :: '/' :: s) ('/' :: t)
  | keep {c s t} (hc : c = '\\' → '/' ∉ s.head?) (h : Unescaped s t) : Unescaped (c :: s) (c :: t)

/-- Only in front of a slash is a backslash the beginning of something. -/
theorem replaceAll_cons_of_keep {c : Char} {s : List Char} (h : c = '\\' → '/' ∉ s.head?) :
    replaceAll ['\\', '/'] ['/'] (c :: s) = c :: replaceAll ['\\', '/'] ['/'] s := by
  have hprefix : ¬ ['\\', '/'].isPrefixOf (c :: s) = true := by
    rw [List.isPrefixOf_iff_prefix]
    rintro ⟨behind, heq⟩
    obtain ⟨rfl, rfl⟩ := List.cons.inj heq
    exact h rfl rfl
  rw [replaceAll, replaceFrom, if_neg hprefix]
  rfl

/-- **Replacing reads what is escaped.** -/
theorem replaceAll_eq_iff_unescaped {s t : List Char} :
    replaceAll ['\\', '/'] ['/'] s = t ↔ Unescaped s t := by
  constructor
  · rintro rfl
    -- an escaped slash has two characters
    induction hn : s.length using Nat.strong_induction_on generalizing s with
    | _ n ih =>
      subst hn
      cases s with
      | nil => exact .nil
      | cons c s =>
        by_cases hc : c = '\\' → '/' ∉ s.head?
        · rw [replaceAll_cons_of_keep hc]
          exact .keep hc (ih s.length (by simp) rfl)
        · obtain ⟨rfl, hslash⟩ : c = '\\' ∧ '/' ∈ s.head? := by
            rwa [Classical.not_imp, not_not] at hc
          obtain ⟨s, rfl⟩ := List.head?_eq_some_iff.1 hslash
          exact .slash (ih s.length (by simp only [List.length_cons]; omega) rfl)
  · intro h
    induction h with
    | nil => rfl
    | slash h ih => exact congrArg ('/' :: ·) ih
    | keep hc h ih => rw [replaceAll_cons_of_keep hc, ih]

/-- **Where a path leads** from a base URL: to the secure web if it begins with two slashes, behind
the base URL without the slashes at its end if it begins with one, and to itself if it begins with
none. -/
inductive Leads (base : List Char) : List Char → List Char → Prop
  | web (rest : List Char) : Leads base ('/' :: '/' :: rest) ("https:".toList ++ '/' :: '/' :: rest)
  | based {origin rest n} (hbase : base = origin ++ List.replicate n '/')
      (horigin : '/' ∉ origin.getLast?) (hrest : '/' ∉ rest.head?) :
      Leads base ('/' :: rest) (origin ++ '/' :: rest)
  | whole {path} (hpath : '/' ∉ path.head?) : Leads base path path

/-- The base URL is cut in front of the slashes at its end. -/
theorem origin_eq_iff {s : Settings} {origin : List Char} : s.origin = origin ↔
    '/' ∉ origin.getLast? ∧ ∃ n, s.baseUrl = origin ++ List.replicate n '/' := by
  have hcut : s.origin = s.baseUrl.rdropWhile (· == '/') := rfl
  rw [hcut, rdropWhile_eq_iff]
  refine and_congr ⟨fun h hlast ↦ ?_, fun h c hc ↦ ?_⟩ ⟨?_, ?_⟩
  · exact absurd (h _ hlast) (by decide)
  · exact beq_eq_false_iff_ne.2 fun heq : c = '/' ↦ h (heq ▸ hc)
  · rintro ⟨slashes, hbase, hslashes⟩
    refine ⟨slashes.length, ?_⟩
    rwa [← List.eq_replicate_of_mem fun c hc ↦ beq_iff_eq.1 (hslashes c hc)]
  · rintro ⟨n, hbase⟩
    exact ⟨_, hbase, fun c hc ↦ beq_iff_eq.2 (List.eq_of_mem_replicate hc)⟩

theorem absolute_of_single {s : Settings} {rest : List Char} (h : '/' ∉ rest.head?) :
    s.absolute ('/' :: rest) = s.origin ++ '/' :: rest := by
  unfold Settings.absolute
  split
  · next r heq =>
    obtain rfl := (List.cons.inj heq).2
    exact absurd rfl h
  · next r _ heq => rw [(List.cons.inj heq).2]
  · next _ hne => exact absurd rfl (hne rest)

theorem absolute_of_none {s : Settings} {path : List Char} (h : '/' ∉ path.head?) :
    s.absolute path = path := by
  unfold Settings.absolute
  split
  · exact absurd rfl h
  · exact absurd rfl h
  · rfl

/-- **A path is made a URL** by where it leads. -/
theorem absolute_eq_iff_leads {s : Settings} {path url : List Char} :
    s.absolute path = url ↔ Leads s.baseUrl path url := by
  constructor
  · rintro rfl
    by_cases hpath : '/' ∈ path.head?
    · obtain ⟨rest, rfl⟩ := List.head?_eq_some_iff.1 hpath
      by_cases hrest : '/' ∈ rest.head?
      · obtain ⟨rest, rfl⟩ := List.head?_eq_some_iff.1 hrest
        exact .web rest
      · obtain ⟨hlast, n, hbase⟩ := origin_eq_iff.1 (rfl : s.origin = s.origin)
        rw [absolute_of_single hrest]
        exact .based hbase hlast hrest
    · rw [absolute_of_none hpath]
      exact .whole hpath
  · intro h
    cases h with
    | web rest => rfl
    | based hbase horigin hrest =>
      rw [absolute_of_single hrest, origin_eq_iff.2 ⟨horigin, _, hbase⟩]
    | whole hpath => exact absolute_of_none hpath

/-! ### Scripts of pages -/

/-- The path that a page names: the first in quotes, wherever values of `jsUrl` stand, and the first
value of `jsUrl` if there is none in quotes. -/
def Names (page path : List Char) : Prop :=
  Mention.script.IsFirst page path ∨
    (∀ offset path', ¬ Mention.script.StandsAt page offset path') ∧
      Mention.jsUrl.IsFirst page path

theorem or_eq_some_iff_names {page path : List Char} :
    (scriptPath? page).or (jsUrl? page) = some path ↔ Names page path := by
  rw [Option.or_eq_some_iff, scriptPath?_eq_some_iff, jsUrl?_eq_some_iff,
    Mention.eq_none_iff scriptPath?_eq_some_iff, Names]

/-- What a page comes to, with the base URL `base`: the URL that the path it names leads to, or an
error if it has no mention of either form. -/
inductive Locates (base page : List Char) : Except Error (List Char) → Prop
  | found {path plain url} (hnames : Names page path) (hplain : Unescaped path plain)
      (hurl : Leads base plain url) : Locates base page (.ok url)
  | missing (hscript : ∀ offset path, ¬ Mention.script.StandsAt page offset path)
      (hjsUrl : ∀ offset path, ¬ Mention.jsUrl.StandsAt page offset path) :
      Locates base page (.error .noPlayer)

theorem outcome_scriptUrl_of_some {s : Settings} {page path : List Char}
    (h : (scriptPath? page).or (jsUrl? page) = some path) : (s.scriptUrl page).outcome =
      .ok (s.absolute (replaceAll ['\\', '/'] ['/'] path)) := by
  rw [Settings.scriptUrl, h]
  rfl

theorem outcome_scriptUrl_of_none {s : Settings} {page : List Char}
    (h : (scriptPath? page).or (jsUrl? page) = none) :
    (s.scriptUrl page).outcome = .error .noPlayer := by
  rw [Settings.scriptUrl, h]
  rfl

/-- **The script that a page names.** Every page comes to one thing: the URL that its first path in
quotes leads to, wherever values of `jsUrl` stand, the URL that its first value of `jsUrl` leads to
if there is no such path, and an error if there is neither. -/
theorem outcome_scriptUrl_iff (s : Settings) (page : List Char)
    (x : Except Error (List Char)) :
    (s.scriptUrl page).outcome = x ↔ Locates s.baseUrl page x := by
  constructor
  · rintro rfl
    rcases hfound : (scriptPath? page).or (jsUrl? page) with - | path
    · obtain ⟨hscript, hjsUrl⟩ := Option.or_eq_none_iff.1 hfound
      rw [outcome_scriptUrl_of_none hfound]
      exact .missing ((Mention.eq_none_iff scriptPath?_eq_some_iff).1 hscript)
        ((Mention.eq_none_iff jsUrl?_eq_some_iff).1 hjsUrl)
    · rw [outcome_scriptUrl_of_some hfound]
      exact .found (or_eq_some_iff_names.1 hfound) (replaceAll_eq_iff_unescaped.1 rfl)
        (absolute_eq_iff_leads.1 rfl)
  · intro h
    cases h with
    | found hnames hplain hurl =>
      rw [outcome_scriptUrl_of_some (or_eq_some_iff_names.2 hnames),
        replaceAll_eq_iff_unescaped.2 hplain, absolute_eq_iff_leads.2 hurl]
    | missing hscript hjsUrl =>
      have hnone := (Mention.eq_none_iff scriptPath?_eq_some_iff).2 hscript
      have hnone' := (Mention.eq_none_iff jsUrl?_eq_some_iff).2 hjsUrl
      exact outcome_scriptUrl_of_none (Option.or_eq_none_iff.2 ⟨hnone, hnone'⟩)

/-- Two slashes lead to the secure web also if they are escaped. -/
example : (Settings.usual.scriptUrl "\"jsUrl\":\"\\/\\/h\\/base.js\"".toList).outcome =
    .ok "https://h/base.js".toList :=
  rfl

end Unscramble.Player

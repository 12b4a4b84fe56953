import Unscramble.Proofs.Command.Layout

/-!
# The one source of a command line

Three options say where the script is to come from, and just one of them must be given, once. They
may stand anywhere in front of two dashes, among inputs and other options, and have their value in
the same word or in the next. No option is lost on the way to what has been read, and none is read
that was not written. So it can be told from the words alone whether there is one source, and if
there is, the place that is chosen is the one that was named, although a file would go before a URL
and a URL before a video.

Inputs are kept in their order, those behind two dashes last.

## Main definitions

* `Part.value?`, `Part.origin?`, `Part.input?`: what a part says.
* `sourceWords`: the words that say where the script is to come from.

## Main statements

* `Line.take_spec`, `Line.foldlM_take_spec`: what is known after one part, and after all of them.
* `Layout.length_sourceWords`: options can be counted in the words.
* `Line.read_names_one_source`: an accepted command line names one source, and that is chosen.
-/

namespace Unscramble.Command

/-! ### What parts say -/

/-- The place that the script is to come from if an option is given a value. -/
def Setting.origin? : Setting → List Char → Option Origin
  | script, path => some (.file path)
  | playerUrl, url => some (.url url)
  | video, text => some (.video text)
  | info, _ | timeout, _ | baseUrl, _ | userAgent, _ => none

namespace Part

/-- The value that a part gives an option. -/
def value? (s : Setting) : Part → Option (List Char)
  | setting option value => if option = s then some value else none
  | switches _ | separator | input _ => none

/-- The place that the script is to come from, by one part. -/
def origin? : Part → Option Origin
  | setting option value => option.origin? value
  | switches _ | separator | input _ => none

/-- The input that a part is. -/
def input? : Part → Option (List Char)
  | input text => some text
  | setting _ _ | switches _ | separator => none

open List in
/-- The places that parts name are the values of the three options, in another order. -/
theorem perm_filterMap_origin? (parts : List Part) : parts.filterMap origin? ~
    Setting.sources.flatMap fun s ↦ (parts.filterMap (value? s)).filterMap s.origin? := by
  simp only [Setting.sources, flatMap_cons, flatMap_nil, append_nil]
  induction parts with
  | nil => exact .rfl
  | cons part parts ih =>
    rcases part with ⟨option, value⟩ | options | - | text
    · cases option with
      -- a value moves in front of those of the options that are listed before
      | script => exact ih.cons (.file value)
      | playerUrl => exact (ih.cons (.url value)).trans perm_middle.symm
      | video =>
        rw [← append_assoc] at ih ⊢
        exact (ih.cons (.video value)).trans perm_middle.symm
      | info | timeout | baseUrl | userAgent => exact ih
    · exact ih
    · exact ih
    · exact ih

end Part

/-! ### What has been read -/

namespace Line

variable {l m : Line}

/-- **What a part adds**: an option has its value, behind which it gets no other, and an input comes
last. -/
theorem take_spec {part : Part} (h : l.pending = none) (hm : l.take part = .ok m) :
    m.pending = none ∧
      (∀ s, (m.values.get? s).toList = (l.values.get? s).toList ++ (part.value? s).toList) ∧
      m.inputs = l.inputs ++ part.input?.toList := by
  have hkept (hvalues : m.values = l.values) (s : Setting) :
      (m.values.get? s).toList = (l.values.get? s).toList ++ [] := by
    rw [hvalues, List.append_nil]
  cases part with
  | setting option value =>
    obtain ⟨hnone, -, rfl⟩ := settle_eq_ok_iff.1 hm
    refine ⟨h, fun s ↦ ?_, (List.append_nil _).symm⟩
    by_cases hs : option = s
    · subst hs
      rw [Store.get?_insert_self, hnone, Part.value?, if_pos rfl]
      rfl
    · rw [Store.get?_insert_of_ne _ _ (Ne.symm hs), Part.value?, if_neg hs]
      exact (List.append_nil _).symm
  | switches options =>
    obtain rfl := eq_of_foldlM_turnOn h hm
    exact ⟨h, hkept rfl, (List.append_nil _).symm⟩
  | separator =>
    cases hm
    exact ⟨h, hkept rfl, (List.append_nil _).symm⟩
  | input text =>
    obtain rfl := Except.ok.inj ((addInput_of_none h text).symm.trans hm)
    exact ⟨h, hkept rfl, rfl⟩

/-- **What parts add**, one after the other. -/
theorem foldlM_take_spec {parts : List Part} (h : l.pending = none)
    (hm : parts.foldlM take l = .ok m) :
    (∀ s, (m.values.get? s).toList =
      (l.values.get? s).toList ++ parts.filterMap (Part.value? s)) ∧
      m.inputs = l.inputs ++ parts.filterMap Part.input? := by
  induction parts generalizing l with
  | nil =>
    cases hm
    exact ⟨fun s ↦ (List.append_nil _).symm, (List.append_nil _).symm⟩
  | cons part parts ih =>
    rw [List.foldlM_cons, bind_eq_ok_iff] at hm
    obtain ⟨n, hn, hm⟩ := hm
    obtain ⟨hpending, hvalues, hinputs⟩ := take_spec h hn
    obtain ⟨hvalues', hinputs'⟩ := ih hpending hm
    refine ⟨fun s ↦ ?_, ?_⟩
    · rw [hvalues', hvalues, List.append_assoc, List.filterMap_cons]
      cases part.value? s <;> rfl
    · rw [hinputs', hinputs, List.append_assoc, List.filterMap_cons]
      cases part.input? <;> rfl

/-- Of the three options, just one is given. -/
theorem checkSources_eq_ok_iff : l.checkSources = .ok () ↔ ∃ s, l.sources = [s] := by
  rw [checkSources]
  rcases l.sources with - | ⟨s, - | ⟨s', rest⟩⟩
  · exact ⟨nofun, nofun⟩
  · exact ⟨fun _ ↦ ⟨s, rfl⟩, fun _ ↦ rfl⟩
  · exact ⟨nofun, nofun⟩

/-- The one option that is given has a value, and the others have none. -/
theorem get?_of_sources {s : Setting} (h : l.sources = [s]) :
    (s ∈ Setting.sources ∧ ∃ value, l.values.get? s = some value) ∧
      ∀ s' ∈ Setting.sources, s' ≠ s → l.values.get? s' = none := by
  have hmem (s' : Setting) : s' ∈ l.sources ↔ s' = s := by
    rw [h, List.mem_singleton]
  obtain ⟨hsource, hsome⟩ := List.mem_filter.1 ((hmem s).2 rfl)
  refine ⟨⟨hsource, Option.isSome_iff_exists.1 hsome⟩, fun s' hs' hne ↦ ?_⟩
  exact Option.not_isSome_iff_eq_none.1 fun hsome' ↦
    hne ((hmem s').1 (List.mem_filter.2 ⟨hs', hsome'⟩))

/-- If just one option is given, that is the place, whatever goes before what. -/
theorem origin?_of_sources {s : Setting} {value : List Char} (h : l.sources = [s])
    (hvalue : l.values.get? s = some value) : l.origin? = s.origin? value ∧
      (Setting.sources.flatMap fun s' ↦ (l.values.get? s').toList.filterMap s'.origin?) =
        (s.origin? value).toList := by
  obtain ⟨⟨hsource, -⟩, hnone⟩ := get?_of_sources h
  simp only [Setting.sources, List.flatMap_cons, List.flatMap_nil, origin?]
  cases s with
  | script =>
    rw [hvalue, hnone .playerUrl (by decide) nofun, hnone .video (by decide) nofun]
    exact ⟨rfl, rfl⟩
  | playerUrl =>
    rw [hvalue, hnone .script (by decide) nofun, hnone .video (by decide) nofun]
    exact ⟨rfl, rfl⟩
  | video =>
    rw [hvalue, hnone .script (by decide) nofun, hnone .playerUrl (by decide) nofun]
    exact ⟨rfl, rfl⟩
  | info | timeout | baseUrl | userAgent => exact absurd hsource (by decide)

/-- What options say is what has been read. -/
theorem of_options_eq_ok {o : Options} (h : l.options = .ok o) :
    (∃ s, l.sources = [s]) ∧ l.origin? = some o.origin ∧ o.inputs = l.inputs.map .of := by
  rw [options, bind_eq_ok_iff] at h
  obtain ⟨⟨⟩, hsources, h⟩ := h
  refine ⟨checkSources_eq_ok_iff.1 hsources, ?_⟩
  rcases horigin : l.origin? with - | origin
  · rw [horigin] at h
    cases h
  · rw [horigin] at h
    obtain ⟨timeout, -, h⟩ := bind_eq_ok_iff.1 h
    cases h
    exact ⟨rfl, rfl⟩

end Line

/-! ### Counting options in words -/

/-- Whether a word gives an option: it is named, or named in front of `=`. -/
def Setting.isGivenBy (s : Setting) (w : List Char) : Bool :=
  w = s.flag || (s.flag ++ ['=']).isPrefixOf w

/-- The words in front of two dashes that say where the script is to come from. -/
def sourceWords (words : List (List Char)) : List (List Char) :=
  (words.takeWhile (· ≠ dashes)).filter fun w ↦ Setting.sources.any (·.isGivenBy w)

theorem Setting.isGivenBy_iff {s : Setting} {w : List Char} :
    s.isGivenBy w = true ↔ ∃ value, Word.of w = .long s.name.toList value := by
  rw [isGivenBy, Bool.or_eq_true, decide_eq_true_iff, List.isPrefixOf_iff_prefix]
  constructor
  · rintro (rfl | ⟨value, rfl⟩)
    · exact ⟨none, Word.of_flag s⟩
    · exact ⟨some value, by rw [List.append_assoc]; exact Word.of_joined s value⟩
  · rintro ⟨value, hw⟩
    have hspells := Word.spells_of w
    rw [hw] at hspells
    rcases value with - | value
    · exact .inl hspells
    · exact .inr ⟨value, by rw [List.append_assoc]; exact hspells.symm⟩

/-- Whether a word that looks like this says where the script is to come from. -/
def Word.namesSource : Word → Bool
  | long name _ => Setting.sources.any (·.name.toList = name)
  | separator | short _ | plain _ => false

/-- The words that give one of the three options are those that look like it. -/
theorem any_isGivenBy (w : List Char) :
    Setting.sources.any (·.isGivenBy w) = (Word.of w).namesSource := by
  rw [Bool.eq_iff_iff, List.any_eq_true]
  simp only [Setting.isGivenBy_iff]
  constructor
  · rintro ⟨s, hs, value, hw⟩
    rw [hw]
    exact List.any_eq_true.2 ⟨s, hs, decide_eq_true rfl⟩
  · intro h
    rcases hw : Word.of w with - | ⟨name, value⟩ | letters | text
    all_goals rw [hw] at h
    · cases h
    · obtain ⟨s, hs, hname⟩ := List.any_eq_true.1 h
      exact ⟨s, hs, value, by rw [of_decide_eq_true hname]⟩
    · cases h
    · cases h

theorem length_sourceWords_cons {w : List Char} (h : Word.of w ≠ .separator)
    (words : List (List Char)) : (sourceWords (w :: words)).length =
      (Word.of w).namesSource.toNat + (sourceWords words).length := by
  have hw : w ≠ dashes := by
    rintro rfl
    exact h rfl
  rw [sourceWords, List.takeWhile_cons, if_pos (decide_eq_true hw), List.filter_cons, any_isGivenBy]
  cases (Word.of w).namesSource with
  | false => exact (Nat.zero_add _).symm
  | true => exact Nat.add_comm _ 1

/-- An option with a value says where the script is to come from if it is one of the three. -/
theorem Setting.length_origin? (s : Setting) (value : List Char) (value' : Option (List Char)) :
    (s.origin? value).toList.length = (Word.long s.name.toList value').namesSource.toNat := by
  cases s <;> rfl

/-- As many words of a part say where the script is to come from as the part does. -/
theorem Part.Written.length_sourceWords {part : Part} {ws : List (List Char)}
    (h : part.Written ws) (words : List (List Char)) : (sourceWords (ws ++ words)).length =
      part.origin?.toList.length + (sourceWords words).length := by
  cases h with
  | @apart option value hvalue =>
    have hflag := Word.of_flag option
    have hplain := Word.of_plain hvalue
    show (sourceWords (option.flag :: value :: words)).length = _
    rw [length_sourceWords_cons (hflag ▸ nofun), length_sourceWords_cons (hplain ▸ nofun), hflag,
      hplain, ← Setting.length_origin? option value]
    exact congrArg _ (Nat.zero_add _)
  | joined option value =>
    have hjoined := Word.of_joined option value
    rw [List.singleton_append, length_sourceWords_cons (hjoined ▸ nofun), hjoined,
      ← Setting.length_origin? option value]
    rfl
  | named option =>
    have hflag := Word.of_switchFlag option
    rw [List.singleton_append, length_sourceWords_cons (hflag ▸ nofun), hflag]
    cases option <;> rfl
  | lettered hne hletters =>
    cases hletters with
    | nil => exact absurd rfl hne
    | cons hc _ =>
      have hshort := Word.of_letters (Switch.ne_dash_of_letter? hc)
      rw [List.singleton_append, length_sourceWords_cons (hshort _ ▸ nofun), hshort]
      rfl
  | plain htext =>
    have hplain := Word.of_plain htext
    rw [List.singleton_append, length_sourceWords_cons (hplain ▸ nofun), hplain]
    rfl

/-- **Options can be counted in the words**: as many words say where the script is to come from as
parts do. -/
theorem Layout.length_sourceWords {parts : List Part} {words : List (List Char)}
    (h : Layout parts words) :
    (sourceWords words).length = (parts.filterMap Part.origin?).length := by
  induction h with
  | nil => rfl
  | @cons part parts ws words hw _ ih =>
    rw [hw.length_sourceWords, ih, List.filterMap_cons]
    cases part.origin? with
    | none => exact Nat.zero_add _
    | some origin => exact Nat.add_comm _ _
  | separator inputs =>
    have hinputs : (inputs.map Part.input).filterMap Part.origin? = [] := by
      rw [List.filterMap_map]
      exact List.filterMap_eq_nil_iff.2 fun _ _ ↦ rfl
    show _ = ((inputs.map Part.input).filterMap Part.origin?).length
    rw [hinputs]
    rfl

namespace Line

variable {words : List (List Char)} {o : Options}

theorem start_isOpen : start.IsOpen :=
  ⟨rfl, rfl⟩

/-- Options that are accepted come from a line on which just one source is set, and that is the one
that is chosen. -/
theorem exists_of_read_eq_ok (h : read words = .ok o) : ∃ l, start.readAll words = .ok l ∧
    (∃ s value, l.sources = [s] ∧ l.values.get? s = some value ∧
      s.origin? value = some o.origin ∧ l.origin? = some o.origin) ∧
    o.inputs = l.inputs.map .of := by
  rw [read_eq, bind_eq_ok_iff] at h
  obtain ⟨l, hread, hoptions⟩ := h
  obtain ⟨⟨s, hs⟩, horigin, hinputs⟩ := of_options_eq_ok hoptions
  obtain ⟨⟨-, value, hvalue⟩, -⟩ := get?_of_sources hs
  have hplace := (origin?_of_sources hs hvalue).1
  exact ⟨l, hread, ⟨s, value, hs, hvalue, hplace ▸ horigin, horigin⟩, hinputs⟩

/-- Options that are accepted say what the parts say. -/
theorem of_read_eq_ok {parts : List Part} (hlayout : Layout parts words)
    (h : read words = .ok o) : parts.filterMap Part.origin? = [o.origin] ∧
      o.inputs = (parts.filterMap Part.input?).map .of := by
  obtain ⟨l, hread, ⟨s, value, hs, hvalue, horigin, -⟩, hinputs⟩ := exists_of_read_eq_ok h
  have htake := (readAll_eq_ok_iff_of_layout start_isOpen hlayout).1 hread
  obtain ⟨hvalues, htaken⟩ := foldlM_take_spec rfl htake
  constructor
  · have hperm := Part.perm_filterMap_origin? parts
    simp only [show ∀ s, parts.filterMap (Part.value? s) = (l.values.get? s).toList from
      fun s ↦ (hvalues s).symm, (origin?_of_sources hs hvalue).2, horigin] at hperm
    exact hperm.eq_singleton
  · rw [hinputs, htaken]
    rfl

/-- **An accepted command line names one source**, which is set and chosen, and its inputs are kept
in their order. If not just one word in front of two dashes says where the script is to come from, a
command line is not accepted. -/
theorem read_names_one_source (words : List (List Char)) :
    (∀ o, read words = .ok o →
      (∃ l, start.readAll words = .ok l ∧ ∃ s value, l.sources = [s] ∧
        l.values.get? s = some value ∧ s.origin? value = some o.origin ∧
        l.origin? = some o.origin) ∧
      (∃ parts, Layout parts words) ∧
      ∀ parts, Layout parts words → parts.filterMap Part.origin? = [o.origin] ∧
        o.inputs = (parts.filterMap Part.input?).map .of) ∧
    ((sourceWords words).length ≠ 1 → ∃ stop, read words = .error stop) := by
  constructor
  · intro o h
    obtain ⟨l, hread, hsource, -⟩ := exists_of_read_eq_ok h
    obtain ⟨parts, hlayout, -⟩ := (readAll_eq_ok_iff start_isOpen).1 hread
    exact ⟨⟨l, hread, hsource⟩, ⟨parts, hlayout⟩, fun _ hl ↦ of_read_eq_ok hl h⟩
  · intro hcount
    rcases hread : read words with stop | o
    · exact ⟨stop, rfl⟩
    · obtain ⟨l, hl, -⟩ := exists_of_read_eq_ok hread
      obtain ⟨parts, hlayout, -⟩ := (readAll_eq_ok_iff start_isOpen).1 hl
      refine absurd ?_ hcount
      rw [hlayout.length_sourceWords, (of_read_eq_ok hlayout hread).1]
      rfl

theorem read_names_one_source_amongInputs :
    let words := ["s=AB", "--video=abc", "-vq", "--user-agent", "me", "-", "--", "--script"]
    let repeated := ["--script=a.js", "s=AB", "--script", "b.js", "--", "--video"]
    (∃ o, read (words.map String.toList) = .ok o ∧ o.origin = .video "abc".toList ∧
      o.inputs = ["s=AB", "-", "--script"].map fun s ↦ .of s.toList) ∧
    ∃ stop, read (repeated.map String.toList) = .error stop := by
  intro words repeated
  let parts : List Part :=
    [.input "s=AB".toList, .setting .video "abc".toList, .switches [.verbose, .quiet],
      .setting .userAgent "me".toList, .input "-".toList, .separator, .input "--script".toList]
  have hlayout : Layout parts (words.map String.toList) :=
    .cons (.plain (.inl (by decide))) <| .cons (.joined .video "abc".toList) <|
      .cons (.lettered (List.cons_ne_nil _ _) (.cons rfl (.cons rfl .nil))) <|
      .cons (.apart .userAgent (.inl (by decide))) <| .cons (.plain (.inr rfl)) <|
      .separator ["--script".toList]
  obtain ⟨o, ho⟩ : ∃ o, read (words.map String.toList) = .ok o := ⟨_, rfl⟩
  obtain ⟨-, -, hparts⟩ := (read_names_one_source (words.map String.toList)).1 o ho
  obtain ⟨horigin, hinputs⟩ := hparts parts hlayout
  exact ⟨⟨o, ho, (List.cons.inj horigin).1.symm, hinputs⟩,
    (read_names_one_source (repeated.map String.toList)).2 (by decide)⟩

end Line

end Unscramble.Command

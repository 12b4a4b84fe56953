import Unscramble.Command.Line
import Unscramble.Proofs.OneByOne
import Unscramble.Proofs.Text.Split

/-!
# Command lines as parts

A command line is a sequence of parts: options with a value, options without one, inputs, and two
dashes in front of further inputs. An option with a value is written as one word or as two, and
options without one by name, or several of them by letters. A value in a word of its own must not
look like an option, and neither must an input unless it comes behind two dashes. Apart from that,
parts may stand in any order.

A reader of words does not see the parts. It finds out that a word is a value only by the word in
front of it, and gives the option its value only when the next part comes or the words end. Here all
this is shown not to matter: words are accepted exactly if they are those of parts that can be taken
one after the other, and what has been read in the end is what was taken.

## Main definitions

* `Part`, `Part.Written`: the parts of a command line, and how they are written.
* `Layout`: the words of a sequence of parts.
* `Line.take`: a part is taken at once.
* `Line.readAll`: all words are read, and the option that is pending gets its value.

## Main statements

* `Word.spells_of`: what a word looks like tells how it is spelled.
* `Line.readAll_pending_iff`: it does not matter when an option gets its value.
* `Line.readAll_eq_ok_iff`: words are accepted exactly if they are those of parts that are taken.
-/

namespace Unscramble.Command

open Unscramble.Text

/-! ### How parts are written -/

/-- The word that names an option. -/
def Setting.flag (s : Setting) : List Char :=
  '-' :: '-' :: s.name.toList

/-- The word that names an option. -/
def Switch.flag (s : Switch) : List Char :=
  '-' :: '-' :: s.name.toList

/-- Two dashes, behind which there are only inputs. -/
def dashes : List Char :=
  ['-', '-']

/-- A word that does not look like an option: it does not begin with a dash, or is a lone dash. -/
def IsPlain (w : List Char) : Prop :=
  w.head? ≠ some '-' ∨ w = ['-']

/-- A part of a command line. -/
inductive Part
  /-- An option with its value. -/
  | setting (option : Setting) (value : List Char)
  /-- Options without a value. -/
  | switches (options : List Switch)
  /-- Two dashes. -/
  | separator
  /-- An input. -/
  | input (text : List Char)

/-- How parts are written in front of two dashes. -/
inductive Part.Written : Part → List (List Char) → Prop
  /-- The value is a word of its own. -/
  | apart (option : Setting) {value : List Char} (h : IsPlain value) :
      Written (.setting option value) [option.flag, value]
  /-- The value stands behind `=`. -/
  | joined (option : Setting) (value : List Char) :
      Written (.setting option value) [option.flag ++ '=' :: value]
  /-- An option without a value is named. -/
  | named (option : Switch) : Written (.switches [option]) [option.flag]
  /-- Options without a value are given by their letters, at least one. -/
  | lettered {options : List Switch} {letters : List Char} (hne : letters ≠ [])
      (h : List.Forall₂ (fun option c ↦ option.letter? = some c) options letters) :
      Written (.switches options) ['-' :: letters]
  /-- An input is itself. -/
  | plain {text : List Char} (h : IsPlain text) : Written (.input text) [text]

/-- The words of a sequence of parts. -/
inductive Layout : List Part → List (List Char) → Prop
  /-- No part has no word. -/
  | nil : Layout [] []
  /-- A part in front of others. -/
  | cons {part : Part} {parts : List Part} {ws words : List (List Char)} (h : part.Written ws)
      (rest : Layout parts words) : Layout (part :: parts) (ws ++ words)
  /-- All words behind two dashes are inputs. -/
  | separator (inputs : List (List Char)) :
      Layout (.separator :: inputs.map .input) (dashes :: inputs)

/-! ### What words look like -/

namespace Word

/-- **What a word looks like** tells how it is spelled. -/
theorem spells_of (w : List Char) : match of w with
    | separator => w = dashes
    | long name none => w = '-' :: '-' :: name
    | long name (some value) => w = '-' :: '-' :: (name ++ '=' :: value)
    | short letters => w = '-' :: letters ∧ letters ≠ []
    | plain text => text = w ∧ IsPlain w := by
  fun_cases of w with
  | case1 => rfl
  | case2 r _ name value hsplit => rw [eq_of_splitFirst? hsplit]
  | case3 r _ _ => rfl
  | case4 c r _ => exact ⟨rfl, List.cons_ne_nil c r⟩
  | case5 _ _ hlong hshort =>
    refine ⟨rfl, ?_⟩
    rcases w with _ | ⟨c, _ | ⟨d, r⟩⟩
    · exact .inl nofun
    · by_cases hc : c = '-'
      · exact .inr (by rw [hc])
      · exact .inl fun h ↦ hc (Option.some.inj h)
    · exact .inl fun h ↦ hshort d r (by rw [Option.some.inj h])

/-- A dash with something behind it looks like an option. -/
theorem not_isPlain (c : Char) (r : List Char) : ¬ IsPlain ('-' :: c :: r) := by
  rintro (h | h)
  · exact h rfl
  · cases h

theorem of_plain {w : List Char} (h : IsPlain w) : of w = plain w := by
  have hspells := spells_of w
  rcases hw : of w with - | ⟨name, - | value⟩ | letters | text
  all_goals rw [hw] at hspells; dsimp only at hspells
  · exact absurd h (hspells ▸ not_isPlain _ _)
  · exact absurd h (hspells ▸ not_isPlain _ _)
  · exact absurd h (hspells ▸ not_isPlain _ _)
  · obtain ⟨rfl, hne⟩ := hspells
    obtain ⟨c, r, rfl⟩ := List.exists_cons_of_ne_nil hne
    exact absurd h (not_isPlain c r)
  · rw [hspells.1]

theorem of_flag (option : Setting) : of option.flag = long option.name.toList none := by
  cases option <;> rfl

theorem of_joined (option : Setting) (value : List Char) :
    of (option.flag ++ '=' :: value) = long option.name.toList (some value) := by
  cases option <;> rfl

theorem of_switchFlag (option : Switch) : of option.flag = long option.name.toList none := by
  cases option <;> rfl

theorem of_letters {c : Char} (h : c ≠ '-') (r : List Char) :
    of ('-' :: c :: r) = short (c :: r) := by
  rw [of]
  · exact fun hc _ ↦ h hc
  · exact h

end Word

/-! ### Names and letters -/

theorem Setting.named?_name (s : Setting) : Setting.named? s.name.toList = some s := by
  cases s <;> rfl

theorem Setting.name_of_named? {name : List Char} {s : Setting}
    (h : Setting.named? name = some s) : name = s.name.toList := by
  have hname := List.find?_some h
  exact (of_decide_eq_true hname).symm

/-- No option has both a value and none. -/
theorem Setting.named?_switch (s : Switch) : Setting.named? s.name.toList = none := by
  cases s <;> rfl

theorem Switch.named?_name (s : Switch) : Switch.named? s.name.toList = some s := by
  cases s <;> rfl

theorem Switch.name_of_named? {name : List Char} {s : Switch}
    (h : Switch.named? name = some s) : name = s.name.toList := by
  have hname := List.find?_some h
  exact (of_decide_eq_true hname).symm

/-- A letter belongs to one option at most. -/
theorem Switch.lettered?_eq_some_iff {c : Char} {s : Switch} :
    Switch.lettered? c = some s ↔ s.letter? = some c := by
  constructor
  · intro h
    have hletter := List.find?_some h
    exact of_decide_eq_true hletter
  · intro h
    cases s <;> cases h <;> rfl

theorem Switch.ne_dash_of_letter? {c : Char} {s : Switch} (h : s.letter? = some c) : c ≠ '-' := by
  rintro rfl
  cases s <;> cases h

/-! ### Taking parts -/

namespace Line

/-- Take a part at once. -/
def take (l : Line) : Part → Except Stop Line
  | .setting option value => l.settle option value
  | .switches options => options.foldlM turnOn l
  | .separator => .ok { l with onlyInputs := true }
  | .input text => l.addInput text

/-- Read words, and give the option that is pending its value. -/
def readAll (l : Line) (words : List (List Char)) : Except Stop Line := do
  (← words.foldlM readWord l).resolve

theorem readAll_nil (l : Line) : l.readAll [] = l.resolve := rfl

theorem readAll_cons (l : Line) (w : List Char) (words : List (List Char)) :
    l.readAll (w :: words) = l.readWord w >>= (readAll · words) := by
  rw [readAll, List.foldlM_cons, bind_assoc]
  rfl

theorem readAll_cons_eq_ok_iff {l m : Line} {w : List Char} {words : List (List Char)} :
    l.readAll (w :: words) = .ok m ↔ ∃ n, l.readWord w = .ok n ∧ n.readAll words = .ok m := by
  rw [readAll_cons, bind_eq_ok_iff]

/-- The options of a command line are those of the line that is read. -/
theorem read_eq (words : List (List Char)) : read words = start.readAll words >>= options := by
  rw [read, readAll, bind_assoc]

/-- No option is pending, and further words may be options. -/
structure IsOpen (l : Line) : Prop where
  pending : l.pending = none
  onlyInputs : l.onlyInputs = false

variable {l m n : Line}

theorem resolve_of_none (h : l.pending = none) : l.resolve = .ok l := by
  rw [resolve, h]

theorem resolve_of_wanting {option : Setting} (h : l.pending = some (option, none)) :
    l.resolve = .error (.refused (.noValue option)) := by
  rw [resolve, h]

theorem resolve_of_holding {option : Setting} {value : List Char}
    (h : l.pending = some (option, some value)) :
    l.resolve = { l with pending := none }.settle option value := by
  rw [resolve, h]

/-- What settling an option does. -/
theorem settle_eq_ok_iff {option : Setting} {value : List Char} :
    l.settle option value = .ok m ↔ l.values.get? option = none ∧ check option value = .ok () ∧
      m = { l with values := l.values.insert option value } := by
  rw [settle]
  rcases l.values.get? option with - | earlier
  · rw [if_neg (by nofun), bind_eq_ok_iff]
    constructor
    · rintro ⟨⟨⟩, hcheck, hm⟩
      exact ⟨rfl, hcheck, (Except.ok.inj hm).symm⟩
    · rintro ⟨-, hcheck, rfl⟩
      exact ⟨(), hcheck, rfl⟩
  · rw [if_pos (show (some earlier).isSome = true from rfl)]
    exact ⟨nofun, fun h ↦ nomatch h.1⟩

theorem IsOpen.settle {option : Setting} {value : List Char} (h : l.IsOpen)
    (hm : l.settle option value = .ok m) : m.IsOpen := by
  obtain ⟨-, -, rfl⟩ := settle_eq_ok_iff.1 hm
  exact ⟨h.pending, h.onlyInputs⟩

/-! ### Lines without a pending option -/

theorem resolve_eq_ok (h : l.resolve = .ok m) : m.pending = none ∧ m.onlyInputs = l.onlyInputs := by
  rcases hp : l.pending with - | ⟨option, - | value⟩
  · rw [resolve_of_none hp] at h
    cases h
    exact ⟨hp, rfl⟩
  · rw [resolve_of_wanting hp] at h
    cases h
  · rw [resolve_of_holding hp] at h
    obtain ⟨-, -, rfl⟩ := settle_eq_ok_iff.1 h
    exact ⟨rfl, rfl⟩

/-- An option that got its value gets no other. -/
theorem bind_resolve_iff {f : Line → Except Stop Line} : (l.resolve >>= f) = .ok m ↔
    ∃ n, l.resolve = .ok n ∧ (n.resolve >>= f) = .ok m := by
  rw [bind_eq_ok_iff]
  refine exists_congr fun n ↦ and_congr_right fun hn ↦ ?_
  rw [resolve_of_none (resolve_eq_ok hn).1]
  rfl

/-- What turning on an option does. -/
theorem turnOn_eq_ok_iff (h : l.pending = none) {option : Switch} : l.turnOn option = .ok m ↔
    (option ≠ .help ∧ option ≠ .version) ∧ option ∉ l.switches ∧
      m = { l with switches := option :: l.switches } := by
  rw [turnOn, resolve_of_none h]
  have hordinary : (if option ∈ l.switches then Except.error (Stop.refused (.switchRepeated option))
      else .ok { l with switches := option :: l.switches }) = .ok m ↔
        option ∉ l.switches ∧ m = { l with switches := option :: l.switches } := by
    by_cases hmem : option ∈ l.switches
    · rw [if_pos hmem]
      exact ⟨nofun, fun h ↦ absurd hmem h.1⟩
    · rw [if_neg hmem]
      exact ⟨fun h ↦ ⟨hmem, (Except.ok.inj h).symm⟩, fun h ↦ congrArg _ h.2.symm⟩
  cases option with
  | help => exact ⟨nofun, fun h ↦ absurd rfl h.1.1⟩
  | version => exact ⟨nofun, fun h ↦ absurd rfl h.1.2⟩
  | trace | verbose | quiet => exact hordinary.trans (and_iff_right ⟨nofun, nofun⟩).symm

/-- Letters turn on the options that they belong to. -/
theorem turnOnAll_of_letters {options : List Switch} {letters : List Char}
    (h : List.Forall₂ (fun option c ↦ option.letter? = some c) options letters) (l : Line) :
    l.turnOnAll letters = options.foldlM turnOn l := by
  induction h generalizing l with
  | nil => rfl
  | cons hc _ ih =>
    rw [turnOnAll, List.foldlM_cons, List.foldlM_cons, Switch.lettered?_eq_some_iff.2 hc]
    exact congrArg (turnOn l _ >>= ·) (funext ih)

/-- Other letters are refused. -/
theorem exists_of_turnOnAll {letters : List Char} (h : l.turnOnAll letters = .ok m) :
    ∃ options : List Switch,
      List.Forall₂ (fun option c ↦ option.letter? = some c) options letters := by
  induction letters generalizing l with
  | nil => exact ⟨[], .nil⟩
  | cons c letters ih =>
    rw [turnOnAll, List.foldlM_cons, bind_eq_ok_iff] at h
    obtain ⟨n, hn, hm⟩ := h
    obtain ⟨options, hletters⟩ := ih hm
    rcases hc : Switch.lettered? c with - | option
    · rw [hc] at hn
      cases hn
    · exact ⟨option :: options, .cons (Switch.lettered?_eq_some_iff.1 hc) hletters⟩

/-! ### Behind two dashes -/

/-- A line with more inputs. -/
def withInputs (l : Line) (texts : List (List Char)) : Line :=
  { l with inputs := l.inputs ++ texts }

theorem withInputs_nil (l : Line) : l.withInputs [] = l := by
  rw [withInputs, List.append_nil]

theorem withInputs_cons (l : Line) (text : List Char) (texts : List (List Char)) :
    l.withInputs (text :: texts) = (l.withInputs [text]).withInputs texts := by
  simp [withInputs]

theorem addInput_of_none (h : l.pending = none) (text : List Char) :
    l.addInput text = .ok (l.withInputs [text]) := by
  rw [addInput, resolve_of_none h]
  rfl

theorem readWord_input (h : l.onlyInputs = true) (text : List Char) :
    l.readWord text = l.addInput text :=
  if_pos h

/-- Behind two dashes, all words are inputs. -/
theorem readAll_inputs_of_none (hpending : l.pending = none) (h : l.onlyInputs = true)
    (inputs : List (List Char)) : l.readAll inputs = .ok (l.withInputs inputs) := by
  induction inputs generalizing l with
  | nil => rw [readAll_nil, resolve_of_none hpending, withInputs_nil]
  | cons text inputs ih =>
    rw [readAll_cons, readWord_input h, addInput_of_none hpending, withInputs_cons l text inputs]
    exact ih hpending h

theorem foldlM_take_inputs (h : l.pending = none) (inputs : List (List Char)) :
    (inputs.map .input).foldlM take l = .ok (l.withInputs inputs) := by
  induction inputs generalizing l with
  | nil => rw [withInputs_nil]; rfl
  | cons text inputs ih =>
    rw [List.map_cons, List.foldlM_cons, take, addInput_of_none h, withInputs_cons l text inputs]
    exact ih h

/-! ### Pending options -/

theorem readWord_of (h : l.onlyInputs = false) (w : List Char) : l.readWord w =
    match Word.of w with
    | .separator => .ok { l with onlyInputs := true }
    | .long name value => l.readOption name value
    | .short letters => l.turnOnAll letters
    | .plain text =>
      match l.pending with
      | some (option, none) => .ok { l with pending := some (option, some text) }
      | _ => l.addInput text :=
  if_neg (h ▸ Bool.false_ne_true)

/-- A word that is no value of the pending option comes as if that had got its value before. -/
theorem readWord_iff (h : l.onlyInputs = false) {w : List Char} (hw : w ≠ dashes)
    (hvalue : IsPlain w → ∀ option, l.pending ≠ some (option, none)) :
    l.readWord w = .ok m ↔ ∃ n, l.resolve = .ok n ∧ n.readWord w = .ok m := by
  have hopen : (∃ n, l.resolve = .ok n ∧ n.readWord w = .ok m) ↔ ∃ n, l.resolve = .ok n ∧
      (match Word.of w with
      | .separator => Except.ok { n with onlyInputs := true }
      | .long name value => n.readOption name value
      | .short letters => n.turnOnAll letters
      | .plain text => n.addInput text) = .ok m := by
    refine exists_congr fun n ↦ and_congr_right fun hn ↦ ?_
    obtain ⟨hpending, honly⟩ := resolve_eq_ok hn
    rw [readWord_of (honly.trans h), hpending]
  have hnever (x : Stop) : (Except.error x : Except Stop Line) = .ok m ↔
      ∃ n, l.resolve = .ok n ∧ (Except.error x : Except Stop Line) = .ok m := by
    refine ⟨nofun, ?_⟩
    rintro ⟨-, -, herror⟩
    cases herror
  have hspells := Word.spells_of w
  rw [hopen, readWord_of h]
  rcases hof : Word.of w with - | ⟨name, value⟩ | letters | text
  all_goals rw [hof] at hspells; dsimp only at hspells ⊢
  · exact absurd hspells hw
  · -- an option that is named: it exists or not, and has a value or not
    unfold readOption
    rcases Setting.named? name with - | option <;> rcases value with - | value
    · rcases Switch.named? name with - | option
      · exact hnever _
      · exact bind_resolve_iff
    · rcases Switch.named? name with - | option
      · exact hnever _
      · exact hnever _
    · exact bind_resolve_iff
    · exact bind_resolve_iff
  · obtain ⟨c, r, rfl⟩ := List.exists_cons_of_ne_nil hspells.2
    simp only [turnOnAll, List.foldlM_cons]
    rcases Switch.lettered? c with - | option
    · exact hnever _
    · simp only [turnOn, bind_assoc]
      exact bind_resolve_iff
  · obtain ⟨rfl, hplain⟩ := hspells
    have hpending := hvalue hplain
    rcases hp : l.pending with - | ⟨option, - | value⟩
    · exact bind_resolve_iff
    · exact absurd hp (hpending option)
    · exact bind_resolve_iff

/-- If a word comes as if the pending option had got its value before, so do all that begin with
it. -/
theorem readAll_cons_iff_of_readWord {w : List Char}
    (h : ∀ m, l.readWord w = .ok m ↔ ∃ n, l.resolve = .ok n ∧ n.readWord w = .ok m)
    (words : List (List Char)) : l.readAll (w :: words) = .ok m ↔
      ∃ n, l.resolve = .ok n ∧ n.readAll (w :: words) = .ok m := by
  simp only [readAll_cons_eq_ok_iff, h]
  exact ⟨fun ⟨n, ⟨k, hk, hn⟩, hm⟩ ↦ ⟨k, hk, n, hn, hm⟩,
    fun ⟨k, hk, n, hn, hm⟩ ↦ ⟨n, ⟨k, hk, hn⟩, hm⟩⟩

theorem readAll_nil_iff : l.readAll [] = .ok m ↔ ∃ n, l.resolve = .ok n ∧ n.readAll [] = .ok m := by
  have hresolve : (l.resolve >>= pure) = .ok m ↔ _ := bind_resolve_iff
  simpa only [bind_pure, readAll_nil] using hresolve

/-- Behind two dashes, it does not matter when an option gets its value. -/
theorem readAll_inputs_iff (h : l.onlyInputs = true) (inputs : List (List Char)) :
    l.readAll inputs = .ok m ↔ ∃ n, l.resolve = .ok n ∧ n.readAll inputs = .ok m := by
  rcases inputs with - | ⟨text, inputs⟩
  · exact readAll_nil_iff
  · refine readAll_cons_iff_of_readWord (fun m ↦ ?_) inputs
    rw [readWord_input h, addInput, bind_resolve_iff]
    refine exists_congr fun n ↦ and_congr_right fun hn ↦ ?_
    rw [readWord_input ((resolve_eq_ok hn).2.trans h), addInput]

/-- A line behind two dashes. -/
def shut (l : Line) : Line :=
  { l with onlyInputs := true }

theorem readWord_dashes (h : l.onlyInputs = false) : l.readWord dashes = .ok l.shut :=
  readWord_of h dashes

/-- Two dashes do not touch the pending option. -/
theorem resolve_shut_iff : l.shut.resolve = .ok m ↔ ∃ n, l.resolve = .ok n ∧ m = n.shut := by
  have hshut : l.shut.pending = l.pending := rfl
  rcases hp : l.pending with - | ⟨option, - | value⟩
  · rw [resolve_of_none hp, resolve_of_none (hshut.trans hp)]
    exact ⟨fun h ↦ ⟨l, rfl, (Except.ok.inj h).symm⟩, by rintro ⟨_, ⟨⟩, rfl⟩; rfl⟩
  · rw [resolve_of_wanting hp, resolve_of_wanting (hshut.trans hp)]
    exact ⟨nofun, fun ⟨_, h, _⟩ ↦ nomatch h⟩
  · rw [resolve_of_holding hp, resolve_of_holding (hshut.trans hp), settle_eq_ok_iff]
    constructor
    · rintro ⟨hvalues, hcheck, rfl⟩
      exact ⟨_, settle_eq_ok_iff.2 ⟨hvalues, hcheck, rfl⟩, rfl⟩
    · rintro ⟨n, hn, rfl⟩
      obtain ⟨hvalues, hcheck, rfl⟩ := settle_eq_ok_iff.1 hn
      exact ⟨hvalues, hcheck, rfl⟩

/-- **It does not matter when an option gets its value**: at once, or when the next part comes. -/
theorem readAll_pending_iff (h : l.onlyInputs = false)
    (hpending : ∀ option, l.pending ≠ some (option, none)) (words : List (List Char)) :
    l.readAll words = .ok m ↔ ∃ n, l.resolve = .ok n ∧ n.readAll words = .ok m := by
  rcases words with - | ⟨w, words⟩
  · exact readAll_nil_iff
  by_cases hw : w = dashes
  · subst hw
    have hstep {k : Line} (hk : k.onlyInputs = false) :
        k.readAll (dashes :: words) = k.shut.readAll words := by
      rw [readAll_cons, readWord_dashes hk]
      rfl
    rw [hstep h, readAll_inputs_iff rfl]
    constructor
    · rintro ⟨k, hk, hm⟩
      obtain ⟨n, hn, rfl⟩ := resolve_shut_iff.1 hk
      exact ⟨n, hn, (hstep ((resolve_eq_ok hn).2.trans h)).trans hm⟩
    · rintro ⟨n, hn, hm⟩
      rw [hstep ((resolve_eq_ok hn).2.trans h)] at hm
      exact ⟨n.shut, resolve_shut_iff.2 ⟨n, hn, rfl⟩, hm⟩
  · exact readAll_cons_iff_of_readWord (fun m ↦ readWord_iff h hw fun _ ↦ hpending) words

/-- An option that is named waits for its value. -/
def wants (l : Line) (option : Setting) : Line :=
  { l with pending := some (option, none) }

/-- An option that waits has its value, which it gets later. -/
def holds (l : Line) (option : Setting) (value : List Char) : Line :=
  { l with pending := some (option, some value) }

/-- An option that waits gets a value only if a word comes next that does not look like an
option. -/
theorem exists_of_readAll_wants (h : l.onlyInputs = false) {option : Setting}
    {words : List (List Char)} (hm : (l.wants option).readAll words = .ok m) :
    ∃ value words', words = value :: words' ∧ IsPlain value ∧
      (l.holds option value).readAll words' = .ok m := by
  have honly : (l.wants option).onlyInputs = false := h
  have hresolve : ¬ ∃ n, (l.wants option).resolve = .ok n := nofun
  rcases words with - | ⟨w, words⟩
  · exact absurd ⟨m, hm⟩ hresolve
  by_cases hw : w = dashes
  · -- what comes behind two dashes is an input
    subst hw
    rw [readAll_cons, readWord_dashes honly] at hm
    obtain ⟨k, hk, -⟩ := (readAll_inputs_iff rfl words).1 hm
    obtain ⟨n, hn, -⟩ := resolve_shut_iff.1 hk
    exact absurd ⟨n, hn⟩ hresolve
  by_cases hplain : IsPlain w
  · refine ⟨w, words, rfl, hplain, ?_⟩
    rwa [readAll_cons, readWord_of honly, Word.of_plain hplain] at hm
  · -- another option comes, and this one has no value
    obtain ⟨k, hk, -⟩ := readAll_cons_eq_ok_iff.1 hm
    obtain ⟨n, hn, -⟩ := (readWord_iff honly hw fun hp ↦ absurd hp hplain).1 hk
    exact absurd ⟨n, hn⟩ hresolve

/-! ### Words of parts -/

theorem resolve_holds (h : l.pending = none) (option : Setting) (value : List Char) :
    (l.holds option value).resolve = l.settle option value := by
  have hl : { l.holds option value with pending := none } = l := by
    rw [← h]
    rfl
  exact (resolve_of_holding rfl).trans (congrArg (settle · option value) hl)

theorem readWord_long (h : l.onlyInputs = false) {w name : List Char} {value : Option (List Char)}
    (hof : Word.of w = .long name value) : l.readWord w = l.readOption name value := by
  rw [readWord_of h, hof]

theorem readWord_flag (h : l.IsOpen) (option : Setting) :
    l.readWord option.flag = .ok (l.wants option) := by
  rw [readWord_long h.onlyInputs (Word.of_flag option)]
  unfold readOption
  rw [Setting.named?_name, resolve_of_none h.pending]
  rfl

/-- An option and its value in two words. -/
theorem readAll_apart_iff (h : l.IsOpen) (option : Setting) {value : List Char}
    (hvalue : IsPlain value) (words : List (List Char)) :
    l.readAll (option.flag :: value :: words) = .ok m ↔
      ∃ n, l.settle option value = .ok n ∧ n.readAll words = .ok m := by
  have hword : (l.wants option).readWord value = .ok (l.holds option value) := by
    rw [readWord_of (show (l.wants option).onlyInputs = false from h.onlyInputs),
      Word.of_plain hvalue]
    rfl
  have hread : l.readAll (option.flag :: value :: words) =
      (l.holds option value).readAll words := by
    rw [readAll_cons, readWord_flag h]
    show (l.wants option).readAll (value :: words) = _
    rw [readAll_cons, hword]
    rfl
  have honly : (l.holds option value).onlyInputs = false := h.onlyInputs
  rw [hread, readAll_pending_iff honly (by rintro option' ⟨⟩), resolve_holds h.pending]

/-- An option and its value in one word. -/
theorem readWord_joined (h : l.IsOpen) (option : Setting) (value : List Char) :
    l.readWord (option.flag ++ '=' :: value) = l.settle option value := by
  rw [readWord_long h.onlyInputs (Word.of_joined option value)]
  unfold readOption
  rw [Setting.named?_name, resolve_of_none h.pending]
  rfl

theorem readWord_switchFlag (h : l.IsOpen) (option : Switch) :
    l.readWord option.flag = l.turnOn option := by
  rw [readWord_long h.onlyInputs (Word.of_switchFlag option)]
  unfold readOption
  rw [Setting.named?_switch, Switch.named?_name]

theorem readWord_letters (h : l.IsOpen) {options : List Switch} {letters : List Char}
    (hne : letters ≠ [])
    (hletters : List.Forall₂ (fun option c ↦ option.letter? = some c) options letters) :
    l.readWord ('-' :: letters) = options.foldlM turnOn l := by
  cases hletters with
  | nil => exact absurd rfl hne
  | cons hc hletters =>
    rw [readWord_of h.onlyInputs, Word.of_letters (Switch.ne_dash_of_letter? hc)]
    exact turnOnAll_of_letters (.cons hc hletters) l

theorem readWord_plain (h : l.IsOpen) {text : List Char} (hplain : IsPlain text) :
    l.readWord text = l.addInput text := by
  rw [readWord_of h.onlyInputs, Word.of_plain hplain, h.pending]

/-! ### Sequences of parts -/

/-- What turning on several options does. -/
theorem eq_of_foldlM_turnOn {options : List Switch} (h : l.pending = none)
    (hm : options.foldlM turnOn l = .ok m) :
    m = { l with switches := options.reverse ++ l.switches } := by
  induction options generalizing l with
  | nil => exact (Except.ok.inj hm).symm
  | cons option options ih =>
    rw [List.foldlM_cons, bind_eq_ok_iff] at hm
    obtain ⟨n, hn, hm⟩ := hm
    obtain ⟨-, -, rfl⟩ := (turnOn_eq_ok_iff h).1 hn
    have hrest := ih (l := { l with switches := option :: l.switches }) h hm
    rw [hrest, List.reverse_cons, List.append_assoc]
    rfl

/-- Behind a part other than two dashes, another part may come. -/
theorem IsOpen.take {part : Part} {ws : List (List Char)} (h : l.IsOpen) (hw : part.Written ws)
    (hm : l.take part = .ok m) : m.IsOpen := by
  cases hw with
  | apart | joined => exact h.settle hm
  | named | lettered =>
    obtain rfl := eq_of_foldlM_turnOn h.pending hm
    exact ⟨h.pending, h.onlyInputs⟩
  | plain =>
    obtain rfl := Except.ok.inj ((addInput_of_none h.pending _).symm.trans hm)
    exact ⟨h.pending, h.onlyInputs⟩

/-- **Reading the words of a part** takes the part. -/
theorem readAll_written_iff {part : Part} {ws : List (List Char)} (h : l.IsOpen)
    (hw : part.Written ws) (words : List (List Char)) :
    l.readAll (ws ++ words) = .ok m ↔ ∃ n, l.take part = .ok n ∧ n.readAll words = .ok m := by
  cases hw with
  | apart option hvalue => exact readAll_apart_iff h option hvalue words
  | joined option value =>
    rw [List.singleton_append, readAll_cons_eq_ok_iff, readWord_joined h]
    rfl
  | named option =>
    rw [List.singleton_append, readAll_cons_eq_ok_iff, readWord_switchFlag h, take,
      List.foldlM_cons]
    simp only [List.foldlM_nil, bind_pure]
  | lettered hne hletters =>
    rw [List.singleton_append, readAll_cons_eq_ok_iff, readWord_letters h hne hletters]
    rfl
  | plain hplain =>
    rw [List.singleton_append, readAll_cons_eq_ok_iff, readWord_plain h hplain]
    rfl

/-- Reading the words of parts takes the parts one after the other. -/
theorem readAll_eq_ok_iff_of_layout {parts : List Part} {words : List (List Char)} (h : l.IsOpen)
    (hlayout : Layout parts words) : l.readAll words = .ok m ↔ parts.foldlM take l = .ok m := by
  induction hlayout generalizing l with
  | nil =>
    rw [readAll_nil, resolve_of_none h.pending]
    rfl
  | cons hw _ ih =>
    rw [readAll_written_iff h hw, List.foldlM_cons, bind_eq_ok_iff]
    exact exists_congr fun n ↦ and_congr_right fun hn ↦ ih (h.take hw hn)
  | separator inputs =>
    have hpending : l.shut.pending = none := h.pending
    rw [readAll_cons, readWord_dashes h.onlyInputs, List.foldlM_cons]
    show l.shut.readAll inputs = _ ↔ (inputs.map .input).foldlM take l.shut = _
    rw [readAll_inputs_of_none hpending rfl, foldlM_take_inputs hpending]

/-- Words that are accepted begin with those of a part, or with two dashes. -/
theorem exists_written {w : List Char} {words : List (List Char)} (h : l.IsOpen) (hw : w ≠ dashes)
    (hm : l.readAll (w :: words) = .ok m) :
    ∃ part ws words', Part.Written part ws ∧ w :: words = ws ++ words' := by
  obtain ⟨n, hn, hrest⟩ := readAll_cons_eq_ok_iff.1 hm
  have hspells := Word.spells_of w
  rw [readWord_of h.onlyInputs] at hn
  rcases hof : Word.of w with - | ⟨name, value⟩ | letters | text
  all_goals rw [hof] at hn hspells; dsimp only at hn hspells
  · exact absurd hspells hw
  · unfold readOption at hn
    rcases hsetting : Setting.named? name with - | option
    · -- an option without a value
      rcases hswitch : Switch.named? name with - | option <;> rcases value with - | value
      all_goals rw [hsetting, hswitch] at hn
      · cases hn
      · cases hn
      · obtain rfl := Switch.name_of_named? hswitch
        exact ⟨_, [option.flag], words, .named option, congrArg (· :: words) hspells⟩
      · cases hn
    · obtain rfl := Setting.name_of_named? hsetting
      rcases value with - | value
      · -- its value is the next word
        rw [hspells, show '-' :: '-' :: option.name.toList = option.flag from rfl,
          readAll_cons_eq_ok_iff, readWord_flag h] at hm
        obtain ⟨-, ⟨⟩, hwants⟩ := hm
        obtain ⟨value, words', rfl, hvalue, -⟩ := exists_of_readAll_wants h.onlyInputs hwants
        exact ⟨_, [option.flag, value], words', .apart option hvalue,
          congrArg (· :: value :: words') hspells⟩
      · exact ⟨_, [option.flag ++ '=' :: value], words, .joined option value,
          congrArg (· :: words) hspells⟩
  · obtain ⟨options, hletters⟩ := exists_of_turnOnAll hn
    exact ⟨_, ['-' :: letters], words, .lettered hspells.2 hletters,
      congrArg (· :: words) hspells.1⟩
  · exact ⟨_, [w], words, .plain hspells.2, rfl⟩

/-- Words that are accepted are those of parts. -/
theorem exists_layout {words : List (List Char)} (h : l.IsOpen) (hm : l.readAll words = .ok m) :
    ∃ parts, Layout parts words := by
  -- a part may have two words, so the induction is on how many words there are
  induction hlength : words.length using Nat.strong_induction_on generalizing l words with
  | h k ih =>
    rcases words with - | ⟨w, words⟩
    · exact ⟨[], .nil⟩
    by_cases hw : w = dashes
    · subst hw
      exact ⟨_, .separator words⟩
    · obtain ⟨part, ws, words', hwritten, hwords⟩ := exists_written h hw hm
      rw [hwords] at hm hlength ⊢
      obtain ⟨n, hn, hm⟩ := (readAll_written_iff h hwritten words').1 hm
      have hless : words'.length < k := by
        have hpos : 0 < ws.length := by cases hwritten <;> exact Nat.succ_pos _
        rw [← hlength, List.length_append]
        omega
      obtain ⟨parts, hlayout⟩ := ih _ hless (h.take hwritten hn) hm rfl
      exact ⟨part :: parts, .cons hwritten hlayout⟩

/-- **Words are accepted** exactly if they are those of parts that can be taken one after the
other. -/
theorem readAll_eq_ok_iff {words : List (List Char)} (h : l.IsOpen) : l.readAll words = .ok m ↔
    ∃ parts, Layout parts words ∧ parts.foldlM take l = .ok m := by
  constructor
  · intro hm
    obtain ⟨parts, hlayout⟩ := exists_layout h hm
    exact ⟨parts, hlayout, (readAll_eq_ok_iff_of_layout h hlayout).1 hm⟩
  · rintro ⟨parts, hlayout, hm⟩
    exact (readAll_eq_ok_iff_of_layout h hlayout).2 hm

end Line

end Unscramble.Command

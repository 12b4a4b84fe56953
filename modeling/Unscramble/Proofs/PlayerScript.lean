import Unscramble.Proofs.HelperTable
import Unscramble.Proofs.Pattern.Classes
import Unscramble.Proofs.Plan
import Unscramble.Proofs.Recognizers

/-!
# Player scripts

The form in which the scripts of the player were first seen. An object with helpers is declared, the
entry routine splits its parameter, has the helpers work on it and joins it again, and somewhere the
routine is called on what is encoded. Names, helpers and calls are arbitrary; the text around them
is fixed.

Here are the members of such an object and the statements of such a routine, each read by itself.
How they are found in the script is another matter.

## Main definitions

* `PlayerScript`: what a script says, and `PlayerScript.text`, the script.
* `Body`: the four bodies that a helper can have.

## Main statements

* `Body.classify_text`: the family of each body.
* `PlayerScript.read_statement`, `PlayerScript.memberParts?_member`: statements and members are read
  as they were written.
-/

namespace Unscramble

open Unscramble.Text Unscramble.Pattern

/-! ### Names -/

/-- A character of an entry routine's name: a letter or a digit of ASCII, or `$`. -/
def isEntryChar (c : Char) : Bool :=
  c.isAlphanum || c == '$'

theorem isPlain_of_isEntryChar {c : Char} (h : isEntryChar c = true) : isPlain c = true := by
  simp only [isEntryChar, isPlain, Bool.or_eq_true] at h ⊢
  exact h.imp_left .inl

theorem nameClass_of_isEntryChar {c : Char} (h : isEntryChar c = true) :
    nameClass.has c = true := by
  simp only [isEntryChar, Bool.or_eq_true, isAlphanum_iff, beq_iff_eq] at h
  simp only [nameClass, CharClass.has, CharClass.has_only, Bool.or_eq_true, Bool.and_eq_true,
    decide_eq_true_eq, beq_iff_eq]
  rcases h with ((h | h) | h) | h
  · exact .inl (.inl (.inr h))
  · exact .inl (.inl (.inl h))
  · exact .inl (.inr h)
  · exact .inr h

namespace WrittenName

variable (w : WrittenName isPlain)

/-- The name of an entry routine as a plain name. -/
def toPlain (w : WrittenName isEntryChar) : WrittenName isPlain :=
  ⟨w.chars, w.ne_nil, fun c hc ↦ isPlain_of_isEntryChar (w.all_has c hc)⟩

theorem notMem {c : Char} (hc : isPlain c = false) : c ∉ w.chars :=
  notMem_of_isPlain w.all_has hc

/-- A plain name has one byte for each character. -/
theorem size_chars : Utf8.size w.chars = w.chars.length :=
  Utf8.size_of_ascii fun c hc ↦ toNat_lt_of_isPlain (w.all_has c hc)

/-- A plain name as the name of an object or a helper. -/
def toPart : WrittenName partClass.has where
  chars := w.chars
  ne_nil := w.ne_nil
  all_has := by
    intro c hc
    rcases isPlain_cases (w.all_has c hc) with h | rfl
    · simp [partClass, CharClass.has, h]
    · rfl

theorem isBlank_eq_false : ∀ c ∈ w.chars, isBlank c = false :=
  fun c hc ↦ isBlank_eq_false_of_isPlain (w.all_has c hc)

/-- A name has no white space to trim off, whatever follows it. -/
theorem isBlank_head {rest : List Char} : ∀ c ∈ (w.chars ++ rest).head?, isBlank c = false :=
  fun c hc ↦ w.isBlank_eq_false c (Node.mem_of_mem_head?_append w.ne_nil hc)

theorem trim_chars : trim w.chars = w.chars := by
  refine trim_eq_self ?_ fun c hc ↦ w.isBlank_eq_false c (List.mem_of_mem_getLast? hc)
  exact fun c hc ↦ w.isBlank_eq_false c (List.mem_of_mem_head? hc)

end WrittenName

/-! ### Bodies -/

/-- The bodies of helpers. The last two do the same. -/
inductive Body
  | reverse
  | dropMiddle
  | swapHead
  | swapHeadModulo

namespace Body

/-- The body as it is written. -/
def text : Body → String
  | reverse => "function(a)\x7ba.reverse()\x7d"
  | dropMiddle => "function(a,b)\x7ba.splice(0,b)\x7d"
  | swapHead => "function(a,b)\x7bvar c=a[0];a[0]=a[b%a.length];a[b]=c\x7d"
  | swapHeadModulo => "function(a,b)\x7bvar c=a[0];a[0]=a[b%a.length];a[b%a.length]=c\x7d"

/-- What the body does. -/
def family : Body → Family
  | reverse => .reverse
  | dropMiddle => .dropMiddle
  | swapHead => .swapHead
  | swapHeadModulo => .swapHead

/-- The characters of the body. -/
def spelled : (b : Body) → Spelled b.text
  | reverse => .of rfl
  | dropMiddle => .of rfl
  | swapHead => .of rfl
  | swapHeadModulo => .of rfl

/-- The body without its last brace, which is its only one of that kind. -/
def opened (b : Body) : List Char :=
  b.spelled.chars.dropLast

variable (b : Body)

theorem text_eq : b.text.toList = b.opened ++ ['\x7d'] := by
  rw [b.spelled.toList_eq]
  cases b <;> rfl

theorem brace_notMem_opened : '\x7d' ∉ b.opened := by
  cases b <;> decide

set_option maxRecDepth 4000 in
/-- **The family of a body** is recognized. -/
theorem classify_text : classify b.text.toList = .ok b.family := by
  rw [b.spelled.toList_eq, classify_eq]
  cases b <;> rfl

theorem trim_text : trim b.text.toList = b.text.toList := by
  rw [b.spelled.toList_eq]
  cases b <;> rfl

end Body

/-! ### Scripts -/

/-- What stands in front of the name of the object. -/
def varText : Spelled "var " :=
  .of rfl

/-- What stands between the name of the object and its members. -/
def bracedText : Spelled "=\x7b" :=
  .of rfl

/-- What stands between the name of a helper and the number that it is called with. -/
def argumentText : Spelled "(a," :=
  .of rfl

/-- What stands between the name of the routine and its statements. -/
def openingText : Spelled "=function(a)\x7ba=a.split(\"\");" :=
  .of rfl

/-- What stands behind the statements of the routine. -/
def closingText : Spelled ";return a.join(\"\")\x7d;" :=
  .of rfl

/-- The head of the function that calls the routine. -/
def callerText : Spelled "var w=function(c,a,d)\x7b" :=
  .of rfl

/-- The condition under which the routine is called, up to the name of the routine. -/
def settingText : Spelled "c&&a.set(d,encodeURIComponent(" :=
  .of rfl

/-- What stands behind the name of the routine where it is called. -/
def calledText : Spelled "(decodeURIComponent(c.s))))\x7d;" :=
  .of rfl

/-- What a script of the player says: the name of the entry routine, the helpers of an object, and
the calls of them that the routine makes. -/
structure PlayerScript where
  entry : WrittenName isEntryChar
  object : WrittenName isPlain
  helpers : List (WrittenName isPlain × Body)
  calls : List (WrittenName isPlain × Fin argumentLimit)
  helpers_ne_nil : helpers ≠ []
  calls_ne_nil : calls ≠ []
  nodup_helpers : (helpers.map (·.1.chars)).Nodup

namespace PlayerScript

/-- A helper as a member of the object. -/
def member (h : WrittenName isPlain × Body) : List Char :=
  h.1.chars ++ ':' :: h.2.text.toList

variable (s : PlayerScript)

/-- A call as a statement of the routine. -/
def statement (c : WrittenName isPlain × Fin argumentLimit) : List Char :=
  s.object.chars ++ '.' :: (c.1.chars ++ argumentText.chars ++ Nat.toDigits 10 c.2 ++ [')'])

/-- The members of the object, one on each line. -/
def memberLines : List Char :=
  [',', '\n'].intercalate (s.helpers.map member)

/-- The members of the object, all on one line. -/
def memberRow : List Char :=
  [',', ' '].intercalate (s.helpers.map member)

/-- The statements of the routine in a row. -/
def statementRow : List Char :=
  [';'].intercalate (s.calls.map s.statement)

/-- The declaration of the object. -/
def declaration : List Char :=
  varText.chars ++ s.object.chars ++ bracedText.chars ++ s.memberLines ++ ['\x7d', ';']

/-- The definition of the entry routine. -/
def routine : List Char :=
  s.entry.chars ++ openingText.chars ++ s.statementRow ++ closingText.chars

/-- A function that calls the entry routine. -/
def caller : List Char :=
  callerText.chars ++ settingText.chars ++ s.entry.chars ++ calledText.chars

/-- The script. -/
def text : List Char :=
  s.declaration ++ '\n' :: (s.routine ++ '\n' :: s.caller)

/-- The calls that the routine makes. -/
def steps : List Call :=
  s.calls.map fun c ↦ ⟨String.ofList c.1.chars, c.2⟩

/-- The helpers with their families. -/
def families : List (String × Family) :=
  s.helpers.map fun h ↦ (String.ofList h.1.chars, h.2.family)

/-! ### Characters

What holds of the characters of names and of the few others that are written holds of all characters
of a member or of a statement. -/

theorem forall_mem_member {p : Char → Prop} (hplain : ∀ x, isPlain x = true → p x)
    (hcolon : p ':') (hbody : ∀ b : Body, ∀ x ∈ b.spelled.chars, p x)
    (h : WrittenName isPlain × Body) : ∀ x ∈ member h, p x := by
  rw [member, h.2.spelled.toList_eq, List.forall_mem_append, List.forall_mem_cons]
  exact ⟨fun x hx ↦ hplain x (h.1.all_has x hx), hcolon, hbody h.2⟩

theorem isPlain_of_mem_toDigits {n : ℕ} {x : Char} (hx : x ∈ Nat.toDigits 10 n) :
    isPlain x = true := by
  have hdigit : x.isDigit = true := Nat.isDigit_of_mem_toDigits (by decide) (by decide) hx
  simp [isPlain, Char.isAlphanum, hdigit]

theorem forall_mem_statement {p : Char → Prop} (hplain : ∀ x, isPlain x = true → p x)
    (hmarks : ∀ x ∈ ['.', '(', ',', ')'], p x) (c : WrittenName isPlain × Fin argumentLimit) :
    ∀ x ∈ s.statement c, p x := by
  have hopen : argumentText.chars = ['(', 'a', ','] := rfl
  simp only [statement, hopen, List.forall_mem_append, List.forall_mem_cons]
  refine ⟨fun x hx ↦ hplain x (s.object.all_has x hx), hmarks _ (by simp), ⟨⟨?_, ?_⟩, ?_⟩, ?_⟩
  · exact fun x hx ↦ hplain x (c.1.all_has x hx)
  · exact ⟨hmarks _ (by simp), hplain _ rfl, hmarks _ (by simp), nofun⟩
  · exact fun x hx ↦ hplain x (isPlain_of_mem_toDigits hx)
  · exact ⟨hmarks _ (by simp), nofun⟩

theorem forall_mem_memberLines {p : Char → Prop} (hplain : ∀ x, isPlain x = true → p x)
    (hmarks : ∀ x ∈ [':', ',', '\n'], p x) (hbody : ∀ b : Body, ∀ x ∈ b.spelled.chars, p x) :
    ∀ x ∈ s.memberLines, p x := by
  refine forall_mem_intercalate (fun x hx ↦ hmarks x (List.mem_cons_of_mem _ hx)) fun t ht ↦ ?_
  obtain ⟨h, -, rfl⟩ := List.mem_map.1 ht
  exact forall_mem_member hplain (hmarks _ List.mem_cons_self) hbody h

theorem forall_mem_statementRow {p : Char → Prop} (hplain : ∀ x, isPlain x = true → p x)
    (hmarks : ∀ x ∈ [';', '.', '(', ',', ')'], p x) : ∀ x ∈ s.statementRow, p x := by
  refine forall_mem_intercalate (List.forall_mem_singleton.2 (hmarks _ List.mem_cons_self)) ?_
  intro t ht
  obtain ⟨c, -, rfl⟩ := List.mem_map.1 ht
  exact s.forall_mem_statement hplain (fun x hx ↦ hmarks x (List.mem_cons_of_mem _ hx)) c

/-! ### Members -/

theorem member_eq (h : WrittenName isPlain × Body) :
    member h = (h.1.chars ++ ':' :: h.2.opened) ++ ['\x7d'] := by
  rw [member, h.2.text_eq, List.append_assoc]
  rfl

theorem brace_notMem_member (h : WrittenName isPlain × Body) :
    '\x7d' ∉ h.1.chars ++ ':' :: h.2.opened := by
  simp [h.1.notMem (show isPlain '\x7d' = false by rfl), h.2.brace_notMem_opened]

/-- **A member** is read as the helper that it was written for. -/
theorem memberParts?_member (h : WrittenName isPlain × Body) :
    memberParts? (member h) = some (String.ofList h.1.chars, h.2.text.toList) := by
  have htrim : trim (member h) = member h := by
    refine trim_eq_self h.1.isBlank_head fun c hc ↦ ?_
    rw [member_eq, List.getLast?_concat] at hc
    obtain rfl := Option.some.inj hc
    rfl
  rw [memberParts?, htrim, member, splitFirst?_append_cons (h.1.notMem rfl)]
  show some (String.ofList (trim h.1.chars), trim h.2.text.toList) = _
  rw [h.1.trim_chars, h.2.trim_text]

/-- **The table of the object** has the helpers that were written. -/
theorem read_memberRow :
    (HelperTable.read s.memberRow).outcome = .ok (HelperTable.ofList s.families) := by
  obtain ⟨h, hs, hhelpers⟩ := List.exists_cons_of_ne_nil s.helpers_ne_nil
  have hmembers : members s.memberRow = member h :: (hs.map member).map (' ' :: ·) := by
    rw [memberRow, hhelpers, List.map_cons]
    refine members_intercalate fun x hx ↦ ?_
    rw [← List.map_cons] at hx
    obtain ⟨h', -, rfl⟩ := List.mem_map.1 hx
    exact ⟨_, member_eq h', brace_notMem_member h'⟩
  rw [HelperTable.read, hmembers, families, hhelpers, List.map_cons]
  refine HelperTable.foldlM_readMember_of_known (.cons ?_ ?_) _
  · exact ⟨_, memberParts?_member h, h.2.classify_text⟩
  · rw [List.map_map, List.forall₂_map_left_iff, List.forall₂_map_right_iff, List.forall₂_same]
    intro h' _
    refine ⟨_, ?_, h'.2.classify_text⟩
    have hspace : memberParts? (' ' :: member h') = memberParts? (member h') := by
      rw [memberParts?, memberParts?, trim_cons_of_isBlank rfl]
    exact hspace.trans (memberParts?_member h')

/-! ### Statements -/

/-- A statement as a call. -/
def writtenCall (c : WrittenName isPlain × Fin argumentLimit) : WrittenCall where
  object := s.object.toPart
  helper := c.1.toPart
  token := ⟨['a'], List.cons_ne_nil _ _, forall_mem_of_all rfl⟩
  digits := ⟨Nat.toDigits 10 c.2, Nat.toDigits_ne_nil, fun x hx ↦
    isDigit_of_isDigit (Nat.isDigit_of_mem_toDigits (by decide) (by decide) hx)⟩
  spaces := fun _ ↦ []
  isBlank_spaces := isBlank_of_mem_nil

/-- **A statement** is read as the call that it was written for. -/
theorem read_statement (c : WrittenName isPlain × Fin argumentLimit) :
    CallParts.read (s.statement c) = .ok ⟨s.object.chars, c.1.chars, Nat.toDigits 10 c.2⟩ := by
  have htext : s.statement c = (s.writtenCall c).text [] := by
    simp [statement, argumentText, Spelled.of, WrittenCall.text, writtenCall, WrittenName.toPart]
  rw [htext]
  exact (s.writtenCall c).read_text []

theorem read_call (c : WrittenName isPlain × Fin argumentLimit) :
    Call.read (s.statement c) = .ok ⟨String.ofList c.1.chars, c.2⟩ :=
  Call.read_of_argument (s.read_statement c) (argument?_toDigits c.2.isLt)

theorem statement_ne_nil (c : WrittenName isPlain × Fin argumentLimit) : s.statement c ≠ [] :=
  List.append_ne_nil_of_left_ne_nil s.object.ne_nil _

theorem statements_statementRow : statements s.statementRow = s.calls.map s.statement := by
  refine statements_intercalate (mt List.map_eq_nil_iff.1 s.calls_ne_nil) fun t ht ↦ ?_
  obtain ⟨c, -, rfl⟩ := List.mem_map.1 ht
  have hblank : ∀ x ∈ s.statement c, isBlank x = false :=
    s.forall_mem_statement (fun x ↦ isBlank_eq_false_of_isPlain) (forall_mem_of_all rfl) c
  have hsemi : ∀ x ∈ s.statement c, ';' ≠ x :=
    s.forall_mem_statement (fun x hx ↦ (ne_of_isPlain hx rfl).symm) (forall_mem_of_all rfl) c
  refine ⟨fun hx ↦ hsemi _ hx rfl, ?_, s.statement_ne_nil c⟩
  exact trim_eq_self (fun x hx ↦ hblank x (List.mem_of_mem_head? hx))
    fun x hx ↦ hblank x (List.mem_of_mem_getLast? hx)

theorem steps_ne_nil : s.steps ≠ [] :=
  mt List.map_eq_nil_iff.1 s.calls_ne_nil

/-- **The plan of the routine** makes the calls that were written. -/
theorem read_statementRow : Plan.read s.statementRow = .ok ⟨s.steps, s.steps_ne_nil⟩ := by
  refine Plan.read_of_statements s.steps_ne_nil ?_
  rw [s.statements_statementRow, steps]
  induction s.calls with
  | nil => rfl
  | cons c cs ih =>
    rw [List.map_cons, List.mapM_cons, read_call, ih]
    rfl

/-- The object of the routine is the one that was written. -/
theorem objectName_statementRow : objectName s.statementRow = .ok s.object.chars := by
  obtain ⟨c, cs, hcalls⟩ := List.exists_cons_of_ne_nil s.calls_ne_nil
  rw [objectName, s.statements_statementRow, hcalls, List.map_cons]
  show (CallParts.read (s.statement c)).map CallParts.object = _
  rw [s.read_statement c]
  rfl

end PlayerScript

end Unscramble

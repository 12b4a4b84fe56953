import Mathlib.Data.List.Forall2
import Unscramble.HelperTable
import Unscramble.Proofs.Shape
import Unscramble.Proofs.Text.Follows
import Unscramble.Proofs.Text.Split

/-!
# How a table is read

Members are read one after another into a table that starts empty. `ReadsMembers` lists what can
happen to a member: it joins the table, its body is no known shape, or it has no colon. The last two
refuse the whole table, and only a missing colon does so without a decision.

## Main definitions

* `memberParts?`: the name and the body of a member.
* `ReadsMembers`: a list of members, with the trail and the outcome of reading it.

## Main statements

* `HelperTable.foldlM_readMember`: members are read in one of these ways.
* `ReadsMembers.classified`, `ReadsMembers.ok_iff`, `ReadsMembers.error`: what the trail of such a
  reading is made of, when it gives a table, and which failures it has.
-/

namespace Unscramble

open Unscramble.Text

/-- The name and the body of a member, if it has both. -/
def memberParts? (member : List Char) : Option (String × List Char) :=
  (splitFirst? ':' (trim member)).map fun (name, body) ↦ (String.ofList (trim name), trim body)

/-- The ways of reading members into a table, with the trail and the outcome. -/
inductive ReadsMembers :
    HelperTable → List (List Char) → Trail → Except Failure HelperTable → Prop
  /-- Nothing is left to read. -/
  | done (t : HelperTable) : ReadsMembers t [] [] (.ok t)
  /-- A member of a known shape joins the table. -/
  | joined {t : HelperTable} {m : List Char} {ms : List (List Char)} {name : String}
      {body : List Char} {family : Family} {trail : Trail} {outcome : Except Failure HelperTable}
      (parts : memberParts? m = some (name, body)) (shape : classify body = .ok family)
      (later : ReadsMembers (t.insert name family) ms trail outcome) :
      ReadsMembers t (m :: ms) (.classified name (some family) :: trail) outcome
  /-- The body of a member has no known shape. -/
  | unknown {t : HelperTable} {m : List Char} {ms : List (List Char)} {name : String}
      {body : List Char} (parts : memberParts? m = some (name, body))
      (shape : classify body = .error (.unknownShape (String.ofList body))) :
      ReadsMembers t (m :: ms) [.classified name none]
        (.error (.unknownShape (String.ofList body)))
  /-- A member has no colon. -/
  | unnamed {t : HelperTable} {m : List Char} {ms : List (List Char)}
      (parts : memberParts? m = none) :
      ReadsMembers t (m :: ms) [] (.error (.malformed .tooFewFields (String.ofList (trim m))))

/-! ### Cutting a table text -/

theorem members_ne_nil (text : List Char) : members text ≠ [] := by
  fun_induction members text <;> simp

/-- A character that ends no member belongs to the first one. -/
theorem members_cons {c : Char} {s x : List Char} {xs : List (List Char)}
    (h : ∀ r, c = '\x7d' → s = ',' :: r → False) (hs : members s = x :: xs) :
    members (c :: s) = (c :: x) :: xs := by
  rw [members, hs]
  exact h

/-- **A table text is cut** wherever a comma stands behind a brace. -/
theorem members_append_comma (m r : List Char) :
    members (m ++ '\x7d' :: ',' :: r) = members (m ++ ['\x7d']) ++ members r := by
  -- by the cases of `members`: a cut, any other character, and the end
  fun_induction members m with
  | case1 m ih => exact congrArg (['\x7d'] :: ·) ih
  | case2 c m hcut hnil ih => exact absurd hnil (members_ne_nil m)
  | case3 c m hcut x xs hm ih =>
    obtain ⟨y, ys, hys⟩ := List.exists_cons_of_ne_nil (members_ne_nil (m ++ ['\x7d']))
    rw [hys] at ih
    -- what stands behind `c` is the same in both texts, or a brace
    have hnot : ∀ t, ∀ u, c = '\x7d' → m ++ '\x7d' :: t = ',' :: u → False := by
      intro t u hc hu
      rcases m with _ | ⟨d, m⟩
      · cases hu
      · obtain rfl : d = ',' := (List.cons.inj hu).1
        exact hcut m hc rfl
    rw [List.cons_append, List.cons_append, members_cons (hnot _) hys, members_cons (hnot _) ih]
    rfl
  | case4 => rfl

/-- A text without such a place is one member. -/
theorem members_of_follows {m : List Char} (h : Follows '\x7d' (· != ',') m) : members m = [m] := by
  induction m with
  | nil => rfl
  | cons c m ih =>
    refine members_cons (fun r hc hr ↦ ?_) (ih (List.isChain_cons.1 h).2)
    subst hc hr
    cases Follows.of_append (u := []) h

/-- A brace that comes last does not end a member early. -/
theorem follows_brace {m : List Char} (h : '\x7d' ∉ m) :
    Follows '\x7d' (· != ',') (m ++ ['\x7d']) :=
  (follows_of_notMem h).append (by decide) (.inl fun hlast ↦ h (List.mem_of_mem_getLast? hlast))

/-- Members that are joined by commas and spaces come out again, all but the first with a space. -/
theorem members_intercalate {m : List Char} {ms : List (List Char)}
    (h : ∀ x ∈ m :: ms, ∃ y, x = y ++ ['\x7d'] ∧ '\x7d' ∉ y) :
    members ([',', ' '].intercalate (m :: ms)) = m :: ms.map (' ' :: ·) := by
  obtain ⟨y, rfl, hy⟩ := h m List.mem_cons_self
  -- the space behind a comma goes to the member behind it, which then is like a first member
  induction ms generalizing y with
  | nil => rw [List.intercalate_singleton, members_of_follows (follows_brace hy), List.map_nil]
  | cons m' ms ih =>
    obtain ⟨z, rfl, hz⟩ := h m' (by simp)
    have hspace : '\x7d' ∉ ' ' :: z := by simp [hz]
    have hrest : ∀ x ∈ (' ' :: z ++ ['\x7d']) :: ms, ∃ y, x = y ++ ['\x7d'] ∧ '\x7d' ∉ y := by
      intro x hx
      rcases List.mem_cons.1 hx with rfl | hx
      · exact ⟨_, rfl, hspace⟩
      · exact h x (by simp [hx])
    have hcut : [',', ' '].intercalate ((y ++ ['\x7d']) :: (z ++ ['\x7d']) :: ms) =
        y ++ '\x7d' :: ',' :: [',', ' '].intercalate ((' ' :: z ++ ['\x7d']) :: ms) := by
      rw [List.intercalate_cons_cons, List.cons_append, intercalate_head_cons]
      simp
    rw [hcut, members_append_comma, members_of_follows (follows_brace hy), ih _ hspace hrest]
    rfl

/-! ### Members -/

/-- Decide on a member whose body is classified. -/
def HelperTable.enter (t : HelperTable) (name : String) :
    Except Failure Family → Attempt Failure HelperTable
  | .error e => do
    .note (.decided (.classified name none))
    .fail e
  | .ok family => do
    .note (.decided (.classified name (some family)))
    match t.get? name with
    | some earlier => .note (.helperRepeated name earlier family)
    | none => pure ()
    return t.insert name family

theorem HelperTable.readMember_of_memberParts? {m : List Char} {name : String} {body : List Char}
    (parts : memberParts? m = some (name, body)) (t : HelperTable) :
    t.readMember m = t.enter name (classify body) := by
  obtain ⟨⟨n, b⟩, hsplit, hnb⟩ := Option.map_eq_some_iff.1 parts
  obtain ⟨rfl, rfl⟩ := Prod.mk.inj hnb
  simp only [readMember, hsplit]
  cases classify (trim b) <;> rfl

/-- A member of a known shape leaves its decision and joins the table. -/
theorem HelperTable.enter_ok (t : HelperTable) (name : String) (family : Family) :
    (t.enter name (.ok family)).trail = [.classified name (some family)] ∧
      (t.enter name (.ok family)).outcome = .ok (t.insert name family) := by
  rw [enter]
  cases t.get? name <;> exact ⟨rfl, rfl⟩

theorem HelperTable.readMember_of_memberParts?_eq_none {t : HelperTable} {m : List Char}
    (parts : memberParts? m = none) :
    (t.readMember m).trail = [] ∧
      (t.readMember m).outcome = .error (.malformed .tooFewFields (String.ofList (trim m))) := by
  have hsplit : splitFirst? ':' (trim m) = none := Option.map_eq_none_iff.1 parts
  simp only [readMember, hsplit]
  exact ⟨rfl, rfl⟩

/-- **Members are read in one of the listed ways**, from any table on. -/
theorem HelperTable.foldlM_readMember (t : HelperTable) (ms : List (List Char)) :
    ReadsMembers t ms (ms.foldlM readMember t).trail (ms.foldlM readMember t).outcome := by
  induction ms generalizing t with
  | nil => exact .done t
  | cons m ms ih =>
    rw [List.foldlM_cons]
    cases parts : memberParts? m with
    | none =>
      obtain ⟨htrail, hout⟩ := readMember_of_memberParts?_eq_none (t := t) parts
      rw [Attempt.trail_bind_error hout, Attempt.outcome_bind_error hout, htrail]
      exact .unnamed parts
    | some nb =>
      obtain ⟨name, body⟩ := nb
      cases shape : classify body with
      | error e =>
        rw [readMember_of_memberParts? parts, shape]
        obtain rfl := classify_eq_error shape
        exact .unknown parts shape
      | ok family =>
        obtain ⟨htrail, hout⟩ := enter_ok t name family
        rw [readMember_of_memberParts? parts, shape, Attempt.trail_bind_ok hout,
          Attempt.outcome_bind_ok hout, htrail]
        exact .joined parts shape (ih (t.insert name family))

theorem HelperTable.read_readsMembers (text : List Char) :
    ReadsMembers empty (members text) (HelperTable.read text).trail
      (HelperTable.read text).outcome :=
  foldlM_readMember empty (members text)

/-! ### A table of known helpers -/

/-- Members that are all known join the table one after another. -/
theorem HelperTable.foldlM_readMember_of_known {ms : List (List Char)}
    {helpers : List (String × Family)}
    (h : List.Forall₂ (fun m e ↦ ∃ body, memberParts? m = some (e.1, body) ∧
      classify body = .ok e.2) ms helpers) (t : HelperTable) :
    (ms.foldlM readMember t).outcome = .ok (helpers.foldl (fun t e ↦ t.insert e.1 e.2) t) := by
  induction h generalizing t with
  | nil => rfl
  | cons hm _ ih =>
    obtain ⟨body, parts, shape⟩ := hm
    rename_i m e ms helpers _
    have hout := (enter_ok t e.1 e.2).2
    rw [List.foldlM_cons, readMember_of_memberParts? parts, shape, Attempt.outcome_bind_ok hout, ih]
    rfl

/-- Helpers of different names are all found, each with its own family. -/
theorem HelperTable.get?_foldl_insert {helpers : List (String × Family)}
    (h : (helpers.map (·.1)).Nodup) (t : HelperTable) (name : String) :
    (helpers.foldl (fun t e ↦ t.insert e.1 e.2) t).get? name =
      (helpers.lookup name).or (t.get? name) := by
  induction helpers generalizing t with
  | nil => rfl
  | cons e helpers ih =>
    rw [List.map_cons, List.nodup_cons] at h
    rw [List.foldl_cons, ih h.2, get?_insert, List.lookup_cons]
    by_cases hname : name = e.1
    · -- no later helper has this name, so none replaces it
      have hnone : helpers.lookup e.1 = none := by
        rw [List.lookup_eq_none_iff]
        intro x hx
        rw [bne_iff_ne]
        intro heq
        exact h.1 (heq ▸ List.mem_map_of_mem hx)
      rw [if_pos hname, hname, hnone, beq_self_eq_true]
      rfl
    · rw [if_neg hname, beq_eq_false_iff_ne.2 hname]

/-- Helpers of new and different names all add to the size. -/
theorem HelperTable.size_foldl_insert {helpers : List (String × Family)}
    (h : (helpers.map (·.1)).Nodup) (t : HelperTable)
    (hnew : ∀ e ∈ helpers, t.get? e.1 = none) :
    (helpers.foldl (fun t e ↦ t.insert e.1 e.2) t).size = t.size + helpers.length := by
  induction helpers generalizing t with
  | nil => rfl
  | cons e helpers ih =>
    rw [List.map_cons, List.nodup_cons] at h
    have hsize : (t.insert e.1 e.2).size = t.size + 1 := by
      -- inserting drops entries of the same name, and there are none
      have hkeep : t.entries.filter (·.1 ≠ e.1) = t.entries := by
        rw [List.filter_eq_self]
        intro x hx
        have hlookup := List.lookup_eq_none_iff.1 (hnew e List.mem_cons_self) x hx
        exact decide_eq_true (Ne.symm (bne_iff_ne.1 hlookup))
      show (t.entries.filter (·.1 ≠ e.1)).length + 1 = t.entries.length + 1
      rw [hkeep]
    have hnew' : ∀ x ∈ helpers, (t.insert e.1 e.2).get? x.1 = none := by
      intro x hx
      have hne : x.1 ≠ e.1 := fun heq ↦ h.1 (heq ▸ List.mem_map_of_mem hx)
      rw [get?_insert, if_neg hne]
      exact hnew x (List.mem_cons_of_mem e hx)
    rw [List.foldl_cons, ih h.2 _ hnew', hsize, List.length_cons]
    omega

/-- **Helpers of different names** are all in the table, and nothing else is. -/
theorem HelperTable.get?_ofList {helpers : List (String × Family)}
    (h : (helpers.map (·.1)).Nodup) {name : String} {family : Family} :
    (ofList helpers).get? name = some family ↔ (name, family) ∈ helpers := by
  have hlookup : (ofList helpers).get? name = (helpers.lookup name).or (empty.get? name) :=
    get?_foldl_insert h empty name
  rw [hlookup, get?_empty, Option.or_none, List.lookup_eq_some_iff]
  constructor
  · rintro ⟨before, behind, rfl, -⟩
    exact List.mem_append_right before List.mem_cons_self
  · intro hmem
    obtain ⟨before, behind, rfl⟩ := List.append_of_mem hmem
    refine ⟨before, behind, rfl, fun e he ↦ ?_⟩
    rw [bne_iff_ne]
    rintro rfl
    rw [List.map_append, List.map_cons, List.nodup_append] at h
    exact h.2.2 _ (List.mem_map_of_mem he) _ List.mem_cons_self rfl

theorem HelperTable.size_ofList {helpers : List (String × Family)}
    (h : (helpers.map (·.1)).Nodup) : (ofList helpers).size = helpers.length := by
  have hsize : (ofList helpers).size = empty.size + helpers.length :=
    size_foldl_insert h empty fun _ _ ↦ rfl
  rw [hsize]
  exact Nat.zero_add _

/-! ### What the trail tells -/

/-- A decision on a helper of a known shape. -/
def Decision.IsKnown (d : Decision) : Prop :=
  ∃ helper family, d = .classified helper (some family)

/-- A decision on a helper. -/
def Decision.IsClassified (d : Decision) : Prop :=
  ∃ helper family, d = .classified helper family

namespace ReadsMembers

variable {t : HelperTable} {ms : List (List Char)} {trail : Trail}
  {outcome : Except Failure HelperTable}

/-- Reading members leaves decisions on helpers only, at most one per member. -/
theorem classified (h : ReadsMembers t ms trail outcome) :
    (∀ d ∈ trail, d.IsClassified) ∧ trail.length ≤ ms.length := by
  induction h with
  | done t => exact ⟨by simp, Nat.le_refl _⟩
  | joined parts shape later ih =>
    refine ⟨fun d hd ↦ ?_, Nat.succ_le_succ ih.2⟩
    rcases List.mem_cons.1 hd with rfl | hd
    · exact ⟨_, _, rfl⟩
    · exact ih.1 d hd
  | unknown parts shape =>
    refine ⟨fun d hd ↦ ?_, Nat.succ_le_succ (Nat.zero_le _)⟩
    exact ⟨_, _, List.mem_singleton.1 hd⟩
  | unnamed parts => exact ⟨by simp, Nat.zero_le _⟩

/-- **A table comes out if every member is known**, which is when there is a decision for each
member and all of them name a family. -/
theorem ok_iff (h : ReadsMembers t ms trail outcome) :
    (∃ table, outcome = .ok table) ↔
      trail.length = ms.length ∧ ∀ d ∈ trail, d.IsKnown := by
  induction h with
  | done t => exact ⟨fun _ ↦ ⟨rfl, by simp⟩, fun _ ↦ ⟨t, rfl⟩⟩
  | joined parts shape later ih =>
    rw [ih, List.length_cons, List.length_cons, Nat.succ_inj, List.forall_mem_cons]
    exact and_congr_right fun _ ↦ ⟨fun hd ↦ ⟨⟨_, _, rfl⟩, hd⟩, And.right⟩
  | unknown parts shape =>
    constructor
    · rintro ⟨table, ht⟩
      cases ht
    · rintro ⟨-, hall⟩
      obtain ⟨helper, family, hd⟩ := hall _ (List.mem_singleton_self _)
      cases hd
  | unnamed parts =>
    constructor
    · rintro ⟨table, ht⟩
      cases ht
    · rintro ⟨hlen, -⟩
      cases hlen

/-- A table is refused for a shape after a decision without a family, or else for a missing colon
after decisions that all name a family. -/
theorem error {e : Failure} (h : ReadsMembers t ms trail (.error e)) :
    (∃ body before helper, e = .unknownShape body ∧ trail = before ++ [.classified helper none]) ∨
      (∃ fragment, e = .malformed .tooFewFields fragment) ∧ ∀ d ∈ trail, d.IsKnown := by
  -- the outcome is an index of the induction
  generalize hout : (Except.error e : Except Failure HelperTable) = outcome at h
  induction h with
  | done t => cases hout
  | joined parts shape later ih =>
    rcases ih hout with ⟨body, before, helper, he, rfl⟩ | ⟨he, hall⟩
    · exact .inl ⟨body, _ :: before, helper, he, rfl⟩
    · exact .inr ⟨he, List.forall_mem_cons.2 ⟨⟨_, _, rfl⟩, hall⟩⟩
  | unknown parts shape =>
    exact .inl ⟨_, [], _, Except.error.inj hout, rfl⟩
  | unnamed parts => exact .inr ⟨⟨_, Except.error.inj hout⟩, by simp⟩

end ReadsMembers

end Unscramble

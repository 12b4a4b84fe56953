import Mathlib.Data.List.Dedup
import Mathlib.Data.List.Perm.Basic
import Unscramble.Proofs.HelperTable
import Unscramble.Proofs.OneByOne

/-!
# A table is read all or nothing

Reading a table looks at its members in order, and the first one that defines no known helper ends
it. So there are two cases. If every member defines a helper, there is a table, and the trail has
one decision for each member, also where a name is defined twice. Otherwise there is no table, and
the trail has the decisions on the members before the one that ends the reading, which itself leaves
a decision only if it has a name.

Nothing is lost in the first case but what a later definition replaces: the table has the names of
the members, each with the family of the last member of that name.

## Main definitions

* `helper?`: the helper that a member defines.
* `Defines`: the helpers that members define, one each.
* `IsHelper`: a name and a body are those of a helper.

## Main statements

* `ReadsMembers.exists_helpers`: a reading goes through all members, or up to one without a helper.
* `HelperTable.get?_foldl_insert_of_reverse`: the latest definition of a name counts.
* `HelperTable.read_all_or_nothing`: the table, the trail and the failure of a reading.
-/

namespace Unscramble

open Unscramble.Text

/-! ### The helpers of members -/

/-- The helper that a member defines, with its family. There is none if the member has no name or
its body no known shape. -/
def helper? (m : List Char) : Option (String × Family) :=
  (memberParts? m).bind fun (name, body) ↦ (classify body).toOption.map fun family ↦ (name, family)

/-- Each of the members defines the helper at the same position. -/
def Defines (ms : List (List Char)) (helpers : List (String × Family)) : Prop :=
  List.Forall₂ (fun m e ↦ helper? m = some e) ms helpers

/-- The decisions on helpers that are all known. -/
def decisions (helpers : List (String × Family)) : Trail :=
  helpers.map fun e ↦ .classified e.1 (some e.2)

theorem helper?_eq_some_iff {m : List Char} {e : String × Family} :
    helper? m = some e ↔ ∃ body, memberParts? m = some (e.1, body) ∧ classify body = .ok e.2 := by
  rcases hparts : memberParts? m with - | ⟨name, body⟩
  · simp [helper?, hparts]
  · simp only [helper?, hparts, Option.bind_some, Option.some.injEq, Prod.mk.injEq]
    rcases hshape : classify body with failure | family
    · simp [Except.toOption, hshape]
    · simp [Except.toOption, Prod.ext_iff, hshape]

/-- A name and a body that name a helper and have the shape of its family. -/
def IsHelper (d : String × List Char) (e : String × Family) : Prop :=
  d.1 = e.1 ∧ classify d.2 = .ok e.2

/-- Members define what their names and bodies are. -/
theorem defines_iff {ms : List (List Char)} {ds : List (String × List Char)}
    (h : ms.map memberParts? = ds.map some) {helpers : List (String × Family)} :
    Defines ms helpers ↔ List.Forall₂ IsHelper ds helpers := by
  have hparts : Defines ms helpers ↔ List.Forall₂ (fun (p : Option _) (e : String × Family) ↦
      ∃ body, p = some (e.1, body) ∧ classify body = .ok e.2) (ms.map memberParts?) helpers := by
    rw [List.forall₂_map_left_iff]
    simp only [Defines, helper?_eq_some_iff]
  have hone (d : String × List Char) (e : String × Family) :
      (∃ body, some d = some (e.1, body) ∧ classify body = .ok e.2) ↔ IsHelper d e := by
    simp [IsHelper, Prod.ext_iff]
  rw [hparts, h, List.forall₂_map_left_iff]
  simp only [hone]

/-- Helpers keep the names. -/
theorem map_fst_of_forall₂_isHelper {ds : List (String × List Char)}
    {helpers : List (String × Family)} (h : List.Forall₂ IsHelper ds helpers) :
    ds.map (·.1) = helpers.map (·.1) := by
  rw [← List.forall₂_eq_eq_eq, List.forall₂_map_left_iff, List.forall₂_map_right_iff]
  exact h.imp fun _ _ h ↦ h.1

/-- There are helpers for names and bodies if all of the bodies have known shapes. -/
theorem exists_forall₂_isHelper {ds : List (String × List Char)}
    (h : ∀ d ∈ ds, ∃ family, classify d.2 = .ok family) :
    ∃ helpers, List.Forall₂ IsHelper ds helpers := by
  induction ds with
  | nil => exact ⟨[], .nil⟩
  | cons d ds ih =>
    obtain ⟨⟨family, hfamily⟩, hds⟩ := List.forall_mem_cons.1 h
    obtain ⟨helpers, hhelpers⟩ := ih hds
    exact ⟨(d.1, family) :: helpers, .cons ⟨rfl, hfamily⟩ hhelpers⟩

/-- Each name is the name of a helper of the family of its body. -/
theorem exists_mem_of_forall₂_isHelper {ds : List (String × List Char)}
    {helpers : List (String × Family)} (h : List.Forall₂ IsHelper ds helpers) :
    ∀ d ∈ ds, ∃ family, classify d.2 = .ok family ∧ (d.1, family) ∈ helpers := by
  intro d hd
  obtain ⟨⟨name, family⟩, hmem, hname, hfamily⟩ := exists_of_mem_left h hd
  exact ⟨family, hfamily, hname ▸ hmem⟩

/-- Members define helpers only if every one of them defines one. -/
theorem Defines.isSome {ms : List (List Char)} {helpers : List (String × Family)}
    (h : Defines ms helpers) : ∀ m ∈ ms, (helper? m).isSome = true := by
  induction h with
  | nil => simp
  | cons hm _ ih => exact List.forall_mem_cons.2 ⟨by rw [hm]; rfl, ih⟩

/-- There are as many helpers as members that define them. -/
theorem Defines.ne_nil {ms : List (List Char)} {helpers : List (String × Family)}
    (h : Defines ms helpers) (hne : ms ≠ []) : helpers ≠ [] :=
  ne_nil_of_forall₂ h hne

namespace ReadsMembers

variable {t : HelperTable} {ms : List (List Char)} {trail : Trail}
  {outcome : Except Failure HelperTable}

/-- **A reading goes through all members**, which then all join the table, or up to the first that
defines no helper. -/
theorem exists_helpers (h : ReadsMembers t ms trail outcome) :
    (∃ helpers, Defines ms helpers ∧ trail = decisions helpers ∧
      outcome = .ok (helpers.foldl (fun t e ↦ t.insert e.1 e.2) t)) ∨
    ∃ before m after helpers, ms = before ++ m :: after ∧ Defines before helpers ∧
      ((memberParts? m = none ∧ trail = decisions helpers ∧
          outcome = .error (.malformed .tooFewFields (String.ofList (trim m)))) ∨
        ∃ name body, memberParts? m = some (name, body) ∧ (∀ family, classify body ≠ .ok family) ∧
          trail = decisions helpers ++ [.classified name none] ∧
          outcome = .error (.unknownShape (String.ofList body))) := by
  induction h with
  | done t => exact .inl ⟨[], .nil, rfl, rfl⟩
  | unnamed parts => exact .inr ⟨[], _, _, [], rfl, .nil, .inl ⟨parts, rfl, rfl⟩⟩
  | unknown parts shape =>
    refine .inr ⟨[], _, _, [], rfl, .nil, .inr ⟨_, _, parts, ?_, rfl, rfl⟩⟩
    intro family hfamily
    rw [hfamily] at shape
    cases shape
  | @joined _ m _ name _ family _ _ parts shape later ih =>
    -- the member that joins the table comes in front of all helpers of the later ones
    have hm : helper? m = some (name, family) := helper?_eq_some_iff.2 ⟨_, parts, shape⟩
    rcases ih with ⟨helpers, hms, rfl, hout⟩ | ⟨before, m', after, helpers, rfl, hms, hend⟩
    · exact .inl ⟨_ :: helpers, .cons hm hms, rfl, hout⟩
    · refine .inr ⟨_ :: before, m', after, _ :: helpers, rfl, .cons hm hms, ?_⟩
      rcases hend with ⟨hparts, rfl, hout⟩ | ⟨name, body, hparts, hshape, rfl, hout⟩
      · exact .inl ⟨hparts, rfl, hout⟩
      · exact .inr ⟨name, body, hparts, hshape, rfl, hout⟩

end ReadsMembers

/-- **A table comes out** exactly if all members define helpers, which are then its helpers. -/
theorem HelperTable.outcome_read_eq_ok_iff {text : List Char} {t : HelperTable} :
    (HelperTable.read text).outcome = .ok t ↔
      ∃ helpers, Defines (members text) helpers ∧ t = ofList helpers := by
  constructor
  · intro hread
    rcases (HelperTable.read_readsMembers text).exists_helpers with
      ⟨helpers, hdefines, -, hout⟩ | ⟨before, m, after, helpers, -, -, hend⟩
    · exact ⟨helpers, hdefines, Except.ok.inj (hread.symm.trans hout)⟩
    · rcases hend with ⟨-, -, hout⟩ | ⟨name, body, -, -, -, hout⟩
      · cases hread.symm.trans hout
      · cases hread.symm.trans hout
  · rintro ⟨helpers, hdefines, rfl⟩
    exact foldlM_readMember_of_known (hdefines.imp fun _ _ ↦ helper?_eq_some_iff.1) empty

/-! ### The names of a table -/

namespace HelperTable

/-- **The latest definition of a name counts**, and a name that is not defined keeps what it has. -/
theorem get?_foldl_insert_of_reverse (helpers : List (String × Family)) (t : HelperTable)
    (name : String) : (helpers.foldl (fun t e ↦ t.insert e.1 e.2) t).get? name =
      (helpers.reverse.lookup name).or (t.get? name) := by
  induction helpers generalizing t with
  | nil => rfl
  | cons e helpers ih =>
    rw [List.foldl_cons, ih, get?_insert, List.reverse_cons, List.lookup_append, Option.or_assoc]
    congr 1
    show _ = (List.lookup name [(e.1, e.2)]).or _
    rw [List.lookup_cons]
    by_cases hname : name = e.1
    · rw [if_pos hname, hname, beq_self_eq_true]
      rfl
    · rw [if_neg hname, beq_eq_false_iff_ne.2 hname]
      rfl

/-- A table has the names of its entries. -/
theorem isSome_get?_iff {t : HelperTable} {name : String} :
    (t.get? name).isSome = true ↔ name ∈ t.entries.map (·.1) := by
  rw [get?, ← not_iff_not, Bool.not_eq_true, Option.isSome_eq_false_iff, Option.isNone_iff_eq_none,
    List.lookup_eq_none_iff, List.mem_map]
  constructor
  · rintro h ⟨e, he, rfl⟩
    exact bne_iff_ne.1 (h e he) rfl
  · intro h e he
    rw [bne_iff_ne]
    rintro rfl
    exact h ⟨e, he, rfl⟩

/-- The size of a table is the number of its names. -/
theorem size_eq_of_names {t : HelperTable} {names : List String}
    (h : ∀ name, (t.get? name).isSome = true ↔ name ∈ names) : t.size = names.dedup.length := by
  have hperm : (t.entries.map (·.1)).Perm names.dedup := by
    rw [List.perm_ext_iff_of_nodup t.nodup_names names.nodup_dedup]
    intro name
    rw [List.mem_dedup, ← h, isSome_get?_iff]
  rw [← hperm.length_eq, List.length_map]
  rfl

/-- Helpers that are put into an empty table give it their names. -/
theorem isSome_get?_foldl_insert (helpers : List (String × Family)) (name : String) :
    ((helpers.foldl (fun t e ↦ t.insert e.1 e.2) empty).get? name).isSome = true ↔
      name ∈ helpers.map (·.1) := by
  rw [get?_foldl_insert_of_reverse, get?_empty, Option.or_none, ← not_iff_not, Bool.not_eq_true,
    Option.isSome_eq_false_iff, Option.isNone_iff_eq_none, List.lookup_eq_none_iff]
  constructor
  · intro h hmem
    obtain ⟨e, he, rfl⟩ := List.mem_map.1 hmem
    exact bne_iff_ne.1 (h e (List.mem_reverse.2 he)) rfl
  · intro h e he
    rw [bne_iff_ne]
    rintro rfl
    exact h (List.mem_map_of_mem (List.mem_reverse.1 he))

end HelperTable

/-- **A table is read all or nothing.** If every member defines a helper, there is a table of their
names, in which the last definition of a name counts, and the trail has one decision per member. If
not, there is no table: the trail has the decisions on the members in front of the first that
defines none, and on that one if it has a name, and the failure tells what is wrong with it. -/
theorem HelperTable.read_all_or_nothing (text : List Char) :
    ((∀ m ∈ members text, (helper? m).isSome = true) →
      ∃ helpers table, Defines (members text) helpers ∧
        (HelperTable.read text).outcome = .ok table ∧
        (HelperTable.read text).trail = decisions helpers ∧
        (∀ name, table.get? name = helpers.reverse.lookup name) ∧
        table.size = (helpers.map (·.1)).dedup.length ∧ 0 < table.size) ∧
    (¬ (∀ m ∈ members text, (helper? m).isSome = true) →
      ∃ before m after helpers, members text = before ++ m :: after ∧ Defines before helpers ∧
        ((memberParts? m = none ∧ (HelperTable.read text).trail = decisions helpers ∧
            (HelperTable.read text).outcome =
              .error (.malformed .tooFewFields (String.ofList (trim m)))) ∨
          ∃ name body, memberParts? m = some (name, body) ∧
            (∀ family, classify body ≠ .ok family) ∧
            (HelperTable.read text).trail = decisions helpers ++ [.classified name none] ∧
            (HelperTable.read text).outcome = .error (.unknownShape (String.ofList body)))) := by
  have hreads := (HelperTable.read_readsMembers text).exists_helpers
  constructor
  · intro hall
    rcases hreads with ⟨helpers, hdefines, htrail, hout⟩ | ⟨before, m, after, helpers, hms, -, hend⟩
    · have hsize := size_eq_of_names fun name ↦ isSome_get?_foldl_insert helpers name
      refine ⟨helpers, _, hdefines, hout, htrail, ?_, hsize, ?_⟩
      · intro name
        rw [get?_foldl_insert_of_reverse, get?_empty, Option.or_none]
      · rw [hsize]
        refine List.length_pos_of_ne_nil (mt (List.dedup_eq_nil _).1 ?_)
        exact mt List.map_eq_nil_iff.1 (hdefines.ne_nil (members_ne_nil text))
    · -- the member that ends the reading would define no helper
      obtain ⟨e, he⟩ := Option.isSome_iff_exists.1
        (hall m (hms ▸ List.mem_append_right before List.mem_cons_self))
      obtain ⟨body, parts, shape⟩ := helper?_eq_some_iff.1 he
      rcases hend with ⟨parts', -⟩ | ⟨name, body', parts', shape', -⟩
      · rw [parts] at parts'
        cases parts'
      · obtain ⟨-, rfl⟩ := Prod.mk.inj (Option.some.inj (parts.symm.trans parts'))
        exact absurd shape (shape' e.2)
  · intro hnone
    rcases hreads with ⟨helpers, hdefines, -⟩ | hend
    · exact absurd (hdefines.isSome) hnone
    · exact hend

end Unscramble

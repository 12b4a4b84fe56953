import Unscramble.Note
import Unscramble.Shape
import Unscramble.Text.Split

/-!
# Helper tables

The helpers of a script: which family each name stands for. In the script they are the members of an
object literal, `name:function(a,b){…}`, separated by commas. A member ends at a `}` before a comma,
so the text is cut at `},` and each piece but the last gets its brace back.

## Main definitions

* `HelperTable`: names with their families, each name once.
* `members`: the member texts of an object literal.
* `HelperTable.read`: the table of an object literal, with one decision per member.

## Main statements

* `get?_insert`: the latest value of a name counts.
-/

namespace Unscramble

open Unscramble.Text

/-- Helper names with their families. No name occurs twice. -/
structure HelperTable where
  entries : List (String × Family)
  nodup_names : (entries.map (·.1)).Nodup

namespace HelperTable

/-- The table without helpers. -/
def empty : HelperTable :=
  ⟨[], List.nodup_nil⟩

/-- The family of a helper. -/
def get? (t : HelperTable) (name : String) : Option Family :=
  t.entries.lookup name

/-- The number of helpers. -/
def size (t : HelperTable) : Nat :=
  t.entries.length

theorem nodup_replace {name : String} {family : Family} {entries : List (String × Family)}
    (h : (entries.map (·.1)).Nodup) :
    (((name, family) :: entries.filter (·.1 ≠ name)).map (·.1)).Nodup := by
  rw [List.map_cons, List.nodup_cons]
  constructor
  · simp
  · exact h.sublist (List.filter_sublist.map _)

/-- Add a helper, or replace the one of that name. -/
def insert (t : HelperTable) (name : String) (family : Family) : HelperTable :=
  ⟨(name, family) :: t.entries.filter (·.1 ≠ name), nodup_replace t.nodup_names⟩

/-- The table of a list of helpers, in which a later one replaces an earlier one. -/
def ofList (l : List (String × Family)) : HelperTable :=
  l.foldl (fun t (name, family) ↦ t.insert name family) empty

@[simp] theorem get?_empty (name : String) : empty.get? name = none := rfl

theorem lookup_filter_ne {name other : String} (h : other ≠ name)
    (entries : List (String × Family)) :
    (entries.filter (·.1 ≠ name)).lookup other = entries.lookup other := by
  induction entries with
  | nil => rfl
  | cons e es ih =>
    obtain ⟨key, family⟩ := e
    by_cases hk : key = name
    · subst hk
      rw [List.filter_cons_of_neg (by simp), List.lookup_cons, ih, beq_eq_false_iff_ne.mpr h]
    · rw [List.filter_cons_of_pos (by simpa using hk), List.lookup_cons, List.lookup_cons, ih]

theorem get?_insert (t : HelperTable) (name other : String) (family : Family) :
    (t.insert name family).get? other = if other = name then some family else t.get? other := by
  rw [get?, insert, List.lookup_cons]
  by_cases h : other = name
  · simp [h]
  · simp only [h, if_false, beq_eq_false_iff_ne.mpr h]
    exact lookup_filter_ne h _

end HelperTable

/-- The member texts of an object literal: its pieces between `},`, with the brace put back on all
but the last. -/
def members : List Char → List (List Char)
  | '}' :: ',' :: r => ['}'] :: members r
  | c :: r =>
    match members r with
    | [] => [[c]]
    | m :: ms => (c :: m) :: ms
  | [] => [[]]

/-- Read one member, given the table so far. -/
def HelperTable.readMember (t : HelperTable) (member : List Char) :
    Attempt Failure HelperTable := do
  let member := trim member
  match splitFirst? ':' member with
  | none => .fail (.malformed .tooFewFields (String.ofList member))
  | some (name, body) =>
    let name := String.ofList (trim name)
    match classify (trim body) with
    | .error e => do
      .note (.decided (.classified name none))
      .fail e
    | .ok family => do
      .note (.decided (.classified name (some family)))
      match t.get? name with
      | some earlier => .note (.helperRepeated name earlier family)
      | none => pure ()
      return t.insert name family

/-- Read a table. One member that is no known helper refuses the whole table. -/
def HelperTable.read (text : List Char) : Attempt Failure HelperTable :=
  (members text).foldlM HelperTable.readMember HelperTable.empty

end Unscramble

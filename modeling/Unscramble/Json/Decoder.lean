import Unscramble.Json.Reader

/-!
# Taking values out of a draft

A decoder says what value it wants from a draft. Values are asked for in the order of the text, and
the first fault that is met ends the decoding, be it of the text or of a value that is another than
the one wanted.

A record can be written as an object or as an array. In an object, members that the record lacks are
passed over, and none that it has may come twice; in an array, the values come in the order of the
record's fields. Fields that are missing keep their value.

## Main definitions

* `Decoder`: how a value is taken out of a draft.
* `Field`, `Decoder.record`: records field by field.
* `Decoder.run`: the value of a text.
-/

namespace Unscramble.Json

/-- How a value is taken out of a draft. -/
abbrev Decoder (α : Type) := Draft → Except Fault α

/-- A fault whose place is not known. -/
def Fault.of (reason : Reason) : Fault :=
  ⟨reason, none⟩

/-- The fault of a draft that is not the value wanted: its own, if it has one, comes first. -/
def Draft.refusal : Draft → Fault
  | .broken trouble => trouble.wanted
  | .number n => if n.overflows then .of .outOfRange else .of .mismatch
  | .string (.error f) => f
  | _ => .of .mismatch

/-- The fault of an ending where more is wanted. -/
def Ending.finish : Ending → Except Fault Unit
  | closed => .ok ()
  | broken trouble => .error trouble.wanted

/-- The fault of an ending where nothing more is wanted. -/
def Ending.close : Ending → Except Fault Unit
  | closed => .ok ()
  | broken trouble => .error trouble.closing

namespace Decoder

variable {α : Type}

/-- A truth value. -/
def bool : Decoder Bool
  | .bool b => .ok b
  | d => .error d.refusal

/-- A string. -/
def text : Decoder (List Char)
  | .string (.ok s) => .ok s
  | d => .error d.refusal

/-- A natural number up to `limit`. A number that is a whole one only by its value is refused. -/
def natural (limit : Nat) : Decoder Nat
  | .number n =>
    match n.natural? with
    | some k =>
      if k ≤ limit then .ok k
      else .error (if n.overflows then .of .outOfRange else .of .tooLarge)
    | none => .error (Draft.number n).refusal
  | d => .error d.refusal

/-- A value that may be missing. -/
def optional (decode : Decoder α) : Decoder (Option α)
  | .null => .ok none
  | d => (decode d).map some

/-- The values of elements. -/
def items (decode : Decoder α) : Items → Except Fault (List α)
  | .done ending => do
    ending.finish
    return []
  | .more d rest => do return (← decode d) :: (← items decode rest)

/-- The values of an array. -/
def list (decode : Decoder α) : Decoder (List α)
  | .array elements => items decode elements
  | d => .error d.refusal

end Decoder

/-- A field of a record: its key, and how its value is taken into the record. -/
structure Field (α : Type) where
  key : String
  put : Draft → α → Except Fault α

namespace Field

variable {α β : Type}

/-- A field whose value is put into the record by `set`. -/
def of (key : String) (decode : Decoder β) (set : β → α → α) : Field α :=
  ⟨key, fun d a ↦ (decode d).map (set · a)⟩

/-- Take the values of a record from elements, in the order of its fields. -/
def ofItems : List (Field α) → Items → α → Except Fault α
  | [], .done ending, a => do
    ending.close
    return a
  | [], .more .., _ => .error (.of .trailingText)
  | _ :: _, .done ending, a => do
    ending.finish
    return a
  | field :: fields, .more d rest, a => do ofItems fields rest (← field.put d a)

/-- Take the values of a record from members; `seen` are the keys of fields that were there
before. -/
def ofMembers (fields : List (Field α)) : (seen : List String) → Members → α → Except Fault α
  | _, .done ending, a => do
    ending.finish
    return a
  | seen, .more key d rest, a => do
    let key := String.ofList (← key)
    match fields.find? (·.key == key) with
    | none =>
      match d.fault? with
      | some f => throw f
      | none => ofMembers fields seen rest a
    | some field =>
      if seen.contains key then throw (.of (.duplicate key))
      ofMembers fields (key :: seen) rest (← field.put d a)

end Field

namespace Decoder

variable {α : Type}

/-- A record, with the values that its fields have where they are missing. -/
def record (blank : α) (fields : List (Field α)) : Decoder α
  | .array elements => Field.ofItems fields elements blank
  | .object members => Field.ofMembers fields [] members blank
  | d => .error d.refusal

/-- The value of a text, which nothing but space may follow. -/
def run (decode : Decoder α) (s : List Char) : Except Error α :=
  let (draft, rest) := Draft.read s
  match decode draft with
  | .error f => .error (f.error s)
  | .ok a =>
    match skipSpace (rest.getD []) with
    | [] => .ok a
    | rest => .error ((Fault.at .trailingText rest).error s)

end Decoder

end Unscramble.Json

import Unscramble.Decision

/-!
# Notes

What a computation tells besides its result: the decisions that form its trail, and remarks for a
log, in one order. `Attempt` is a computation that can fail and takes notes; a failure keeps the
notes taken so far.

## Main definitions

* `Note`: a decision or a remark.
* `Attempt`: a result or an error, with notes.
* `trail`: the decisions among the notes.

## Main statements

* `notes_bind_ok`, `notes_bind_error`: a step adds its notes after those before it, and nothing is
  noted after an error.
* `trail_bind_ok`, `trail_bind_error`: the same for the decisions among the notes.
-/

namespace Unscramble

/-- Something worth telling. -/
inductive Note
  /-- A decision of the trail. -/
  | decided (d : Decision)
  /-- The entry routine was found. -/
  | entryFound (entry : String)
  /-- A plan was built from a script. -/
  | planBuilt (entry object : String) (steps helpers : Nat)
  /-- An object has two helpers of one name. -/
  | helperRepeated (helper : String) (earlier later : Family)
  /-- A plan for a script was at hand. -/
  | planReused (fingerprint : String)
  /-- A plan for a script of that many bytes is going to be built. -/
  | planWanted (fingerprint : String) (bytes : Nat)
  /-- A stream got its address. -/
  | streamSigned (itag : UInt32)
  /-- A stream did not get its address. -/
  | streamRefused (itag : UInt32) (reason : String)
  /-- All streams of a response were gone through. -/
  | responseResolved (signed refused : Nat)
  /-- A page names a player script. -/
  | pathFound (path : String)
  /-- A player script was at hand. -/
  | scriptReused (url : String)
  /-- A player script was fetched. -/
  | scriptFetched (url : String) (bytes : Nat)
  /-- A request failed and is going to be repeated after a pause. -/
  | requestRepeated (url reason : String) (pause : Nat)
  deriving DecidableEq

/-- The decisions among the notes. -/
def trail (notes : List Note) : Trail :=
  notes.filterMap fun
    | .decided d => some d
    | _ => none

/-- The notes that are not decisions. -/
def remarks (notes : List Note) : List Note :=
  notes.filter fun
    | .decided _ => false
    | _ => true

/-- A result or an error, and the notes taken on the way. -/
structure Attempt (ε α : Type) where
  notes : List Note
  outcome : Except ε α

namespace Attempt

variable {ε α β : Type}

/-- An attempt that only takes notes. -/
def note (n : Note) : Attempt ε Unit :=
  ⟨[n], .ok ()⟩

/-- An attempt that takes no notes. -/
def ofExcept (x : Except ε α) : Attempt ε α :=
  ⟨[], x⟩

/-- An attempt that fails. -/
def fail (e : ε) : Attempt ε α :=
  ⟨[], .error e⟩

/-- Go on with the result, if there is one. -/
def bind (x : Attempt ε α) (f : α → Attempt ε β) : Attempt ε β :=
  match x.outcome with
  | .error e => ⟨x.notes, .error e⟩
  | .ok a => ⟨x.notes ++ (f a).notes, (f a).outcome⟩

instance : Monad (Attempt ε) where
  pure a := ⟨[], .ok a⟩
  bind := bind

/-- The same attempt with its errors renamed. -/
def mapError {ε' : Type} (f : ε → ε') (x : Attempt ε α) : Attempt ε' α :=
  ⟨x.notes, x.outcome.mapError f⟩

/-- The decisions of an attempt. -/
def trail (x : Attempt ε α) : Trail :=
  Unscramble.trail x.notes

theorem bind_def (x : Attempt ε α) (f : α → Attempt ε β) : x >>= f = x.bind f := rfl

theorem notes_bind_ok {x : Attempt ε α} {a : α} (h : x.outcome = .ok a) (f : α → Attempt ε β) :
    (x >>= f).notes = x.notes ++ (f a).notes := by
  simp [bind_def, bind, h]

theorem notes_bind_error {x : Attempt ε α} {e : ε} (h : x.outcome = .error e)
    (f : α → Attempt ε β) : (x >>= f).notes = x.notes := by
  simp [bind_def, bind, h]

theorem outcome_bind (x : Attempt ε α) (f : α → Attempt ε β) :
    (x >>= f).outcome = x.outcome.bind fun a ↦ (f a).outcome := by
  rw [bind_def, bind]
  cases x.outcome <;> rfl

theorem outcome_bind_ok {x : Attempt ε α} {a : α} (h : x.outcome = .ok a)
    (f : α → Attempt ε β) : (x >>= f).outcome = (f a).outcome := by
  rw [outcome_bind, h]
  rfl

theorem outcome_bind_error {x : Attempt ε α} {e : ε} (h : x.outcome = .error e)
    (f : α → Attempt ε β) : (x >>= f).outcome = .error e := by
  rw [outcome_bind, h]
  rfl

theorem trail_bind_ok {x : Attempt ε α} {a : α} (h : x.outcome = .ok a) (f : α → Attempt ε β) :
    (x >>= f).trail = x.trail ++ (f a).trail := by
  rw [trail, notes_bind_ok h, Unscramble.trail, List.filterMap_append]
  rfl

theorem trail_bind_error {x : Attempt ε α} {e : ε} (h : x.outcome = .error e)
    (f : α → Attempt ε β) : (x >>= f).trail = x.trail := by
  rw [trail, notes_bind_error h]
  rfl

@[simp] theorem trail_pure (a : α) : (pure a : Attempt ε α).trail = [] := rfl

@[simp] theorem trail_fail (e : ε) : (fail e : Attempt ε α).trail = [] := rfl

@[simp] theorem outcome_fail (e : ε) : (fail e : Attempt ε α).outcome = .error e := rfl

@[simp] theorem trail_ofExcept (x : Except ε α) : (ofExcept x).trail = [] := rfl

@[simp] theorem outcome_ofExcept (x : Except ε α) : (ofExcept x).outcome = x := rfl

end Attempt

end Unscramble

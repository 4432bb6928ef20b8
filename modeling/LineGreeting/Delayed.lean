import LineGreeting.Fault

/-! # Things that take time

An operation comes to a value after some milliseconds, or never. A timeout is
one deadline for the whole operation; a value that is there exactly at the
deadline is still in time.
-/

namespace LineGreeting

/-- What becomes of an operation, counted from its start. -/
inductive Delayed (α : Type) where
  /-- The value is there after so many milliseconds. -/
  | ready (after : Nat) (value : α)
  /-- The operation stays pending. -/
  | never
deriving DecidableEq, Repr

namespace Delayed

variable {α β : Type}

/-- The same operation, started only after a pause. -/
def postpone (pause : Nat) : Delayed α → Delayed α
  | ready after value => ready (pause + after) value
  | never => never

/-- The same operation with its value changed. -/
def map (change : α → β) : Delayed α → Delayed β
  | ready after value => ready after (change value)
  | never => never

/-- What an operation has come to when one looks after `patience` milliseconds. -/
def within (patience : Nat) : Delayed α → Delayed α
  | ready after value => if after ≤ patience then ready after value else never
  | never => never

/-- An operation that fails at its deadline, if it has one. -/
def withTimeout (limit : Option Nat) (operation : Delayed (Except Fault α)) :
    Delayed (Except Fault α) :=
  match limit with
  | none => operation
  | some limit =>
    match operation.within limit with
    | ready after result => ready after result
    | never => ready limit (.error (.timedOut limit))

theorem within_of_le {patience after : Nat} (value : α) (hle : after ≤ patience) :
    (ready after value).within patience = ready after value :=
  if_pos hle

theorem within_of_lt {patience after : Nat} (value : α) (hlt : patience < after) :
    (ready after value).within patience = never :=
  if_neg (Nat.not_le.2 hlt)

@[simp] theorem withTimeout_none (operation : Delayed (Except Fault α)) :
    withTimeout none operation = operation := rfl

theorem withTimeout_of_le {limit after : Nat} (result : Except Fault α) (hle : after ≤ limit) :
    withTimeout (some limit) (ready after result) = ready after result := by
  rw [withTimeout, within_of_le result hle]

theorem withTimeout_of_lt {limit after : Nat} (result : Except Fault α) (hlt : limit < after) :
    withTimeout (some limit) (ready after result) = ready limit (.error (.timedOut limit)) := by
  rw [withTimeout, within_of_lt result hlt]

end Delayed

end LineGreeting

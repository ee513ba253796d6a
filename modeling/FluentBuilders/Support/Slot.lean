/-
  Slots — what a builder holds for one property.

  A required property starts unset and a nullable one starts with the absent value.  A nested
  builder that gave no value leaves its error in the slot, so that it comes out when the outer
  builder is finished.
-/
import FluentBuilders.Support.BuildError

namespace FluentBuilders.Support

/-- What a builder holds for one property. -/
inductive Slot (α : Type)
  | unset
  | set (value : α)
  | failed (error : BuildError)
  deriving DecidableEq, Repr

namespace Slot

variable {α : Type}

/-- The slot of a nullable property before anything is assigned. -/
def absent : Slot (Option α) := .set none

/-- The slot that holds the result of a nested builder. -/
def ofResult : Except BuildError α → Slot α
  | .ok v => .set v
  | .error e => .failed e

/-- Whether a slot holds a value. -/
def isSet : Slot α → Bool
  | .set _ => true
  | _ => false

/-- The value that a slot holds. -/
def get? : Slot α → Option α
  | .set v => some v
  | _ => none

/-- The value of a property of a builder, or why there is none. -/
def value (builder property : String) : Slot α → Except BuildError α
  | .set v => .ok v
  | .unset => .error { builder, property }
  | .failed e => .error e

end Slot

end FluentBuilders.Support

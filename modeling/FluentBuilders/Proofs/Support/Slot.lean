/-
  Properties over a run — what a list of calls leaves in a slot, and what finishing makes of it.

  A run of calls is looked at through a single property.  Every call either does nothing to the
  property or makes a move, and the run on the builder becomes a run of moves (`view_foldl`).  A
  plain property is left by the last move.  An inline property has a storage beside its slot: a
  value discards what is stored, an item is stored, and so the storage holds what was added since
  the last value (`perform_foldl`).

  When the builder is finished, the first property without a value decides (`firstFault`).
-/
import FluentBuilders.Proofs.Outcome
import FluentBuilders.Support.Slot
import Mathlib.Data.List.DropRight
import Mathlib.Data.List.Induction

namespace FluentBuilders.Support

variable {α β σ B C V M : Type}

/-! ## One property of a run -/

/-- A slot after a function was applied to its value. -/
def Slot.map (f : α → β) : Slot α → Slot β
  | .unset => .unset
  | .set v => .set (f v)
  | .failed e => .failed e

/-- What a call does to an inline property. -/
inductive Move (α β : Type)
  | assign (value : α)
  | add (item : β)

namespace Move

/-- The move that assigns a function of the value. -/
def map (f : α → V) : Move α β → Move V β
  | .assign v => .assign (f v)
  | .add x => .add x

/-- What a move does to a slot and its storage. -/
def perform (store : Option σ → β → σ) : Slot α × Option σ → Move α β → Slot α × Option σ
  | _, .assign v => (.set v, none)
  | (slot, stored), .add x => (slot, some (store stored x))

end Move

/-- Why a property has no value. -/
def Slot.fault (builder property : String) : Slot α → Option BuildError
  | .set _ => none
  | .unset => some { builder, property }
  | .failed e => some e

variable {builder property : String} {s : Slot α} {f : α → Except BuildError β} {e : BuildError}
  {faults : List (Option BuildError)}

end FluentBuilders.Support

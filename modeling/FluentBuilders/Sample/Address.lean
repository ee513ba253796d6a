/-
  The sample class `Address` and its builder.

  A builder is described by what each call does to it and by what finishing it gives.  A property
  can be set in place or by passing the builder on; the effect is the same.
-/
import FluentBuilders.Support.Slot

namespace FluentBuilders.Sample

open Support

/-- How a property is set: in place, or by passing the builder on. -/
inductive Style
  | mutator
  | setter
  deriving DecidableEq, Repr

/-- An address. -/
structure Address where
  street : String
  city : String
  zip : Option String
  deriving DecidableEq, Repr

namespace Address

/-- The builder of addresses. -/
structure Builder where
  street : Slot String := .unset
  city : Slot String := .unset
  zip : Slot (Option String) := .absent
  deriving DecidableEq, Repr

/-- A call on a builder of addresses. -/
inductive Call
  | street (style : Style) (value : String)
  | city (style : Style) (value : String)
  | zip (style : Style) (value : Option String)
  deriving DecidableEq, Repr

namespace Builder

/-- What a call does to a builder. -/
def apply (b : Builder) : Call → Builder
  | .street _ v => { b with street := .set v }
  | .city _ v => { b with city := .set v }
  | .zip _ v => { b with zip := .set v }

/-- The name of the builder in its errors. -/
def name : String := "AddressBuilder"

/-- The value of a finished builder. -/
def build (b : Builder) : Except BuildError Address := do
  let street ← b.street.value name "street"
  let city ← b.city.value name "city"
  let zip ← b.zip.value name "zip"
  .ok { street, city, zip }

end Builder

/-- The address that a block of calls describes. -/
def location (calls : List Call) : Except BuildError Address :=
  (calls.foldl Builder.apply {}).build

end Address

end FluentBuilders.Sample

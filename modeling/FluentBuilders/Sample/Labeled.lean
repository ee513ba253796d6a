/-
  The sample class `Labeled` and its builder, with a type parameter for its values.
-/
import FluentBuilders.Sample.Address
import FluentBuilders.Support.Collector

namespace FluentBuilders.Sample

open Support

/-- Values with a label. -/
structure Labeled (α : Type) where
  label : String
  values : List α
  deriving DecidableEq, Repr

namespace Labeled

variable {α : Type}

/-- The builder of labeled values. -/
structure Builder (α : Type) where
  label : Slot String := .unset
  values : Slot (List α) := .unset
  deriving DecidableEq, Repr

/-- A call on a builder of labeled values. -/
inductive Call (α : Type)
  | label (style : Style) (value : String)
  | values (style : Style) (value : List α)
  /-- Adds values in a scope. -/
  | valuesScope (items : List α)
  deriving DecidableEq, Repr

namespace Builder

/-- What a call does to a builder. -/
def apply (b : Builder α) : Call α → Builder α
  | .label _ v => { b with label := .set v }
  | .values _ v => { b with values := .set v }
  | .valuesScope items =>
    { b with values := .set (({ container := .vec } : Sequence α).pushAll items).into }

/-- The name of the builder in its errors. -/
def builderName : String := "LabeledBuilder"

/-- The value of a finished builder. -/
def build (b : Builder α) : Except BuildError (Labeled α) := do
  let label ← b.label.value builderName "label"
  let values ← b.values.value builderName "values"
  .ok { label, values }

end Builder

/-- The labeled values that a block of calls describes. -/
def labeled (calls : List (Call α)) : Except BuildError (Labeled α) :=
  (calls.foldl Builder.apply {}).build

end Labeled

end FluentBuilders.Sample

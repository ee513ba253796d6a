/-
  Descriptors — what a generator is told about classes.

  A class appears in two views: the constructors it declares, with the types of their parameters
  and the directives on them, and its metadata, with structural flags and the nullability of each
  parameter.  The two are paired by position.  Beside the classes a descriptor may name further
  types: containers, and classes whose builders are made elsewhere.
-/
import FluentBuilders.TypeRef
import FluentBuilders.Name.Member

namespace FluentBuilders.Descriptor

/-! ## Structural flags -/

/-- What kind of declaration a type is. -/
inductive DeclaredKind
  | plain
  | enumeration
  | interface
  | object
  | marker
  deriving DecidableEq, Repr

/-- Where a declaration may be used. -/
inductive DeclaredVisibility
  | pub
  | internal
  | prot
  | priv
  deriving DecidableEq, Repr

/-- How a class may be inherited. -/
inductive DeclaredModality
  | final
  | inheritable
  | abstract
  | sealed
  deriving DecidableEq, Repr

/-- Where a class is declared. -/
inductive DeclaredNesting
  | topLevel
  | nested
  | inner
  | inBlock
  deriving DecidableEq, Repr

/-- How a type parameter varies. -/
inductive Variance
  | invariant
  | contravariant
  | covariant
  deriving DecidableEq, Repr

/-! ## Directives -/

/-- The mark that asks for a builder, with a display name that may be blank. -/
structure Generate where
  name : String := ""
  deriving DecidableEq, Repr

/-- The display name without blanks around it, if there is one. -/
def Generate.displayName (g : Generate) : Option String := Name.trimmed? g.name

/-- The mark that makes a parameter a collection. -/
structure CollectionOverride where
  concreteType : Option String := none
  inline : Bool := false
  deriving DecidableEq, Repr

/-! ## Declared constructors -/

/-- A parameter as a constructor declares it. -/
structure ParameterEntry where
  name : String
  type : TypeRef
  override : Option CollectionOverride := none
  deriving Repr

/-- A constructor as a class declares it. -/
structure ConstructorEntry where
  function : String := "new"
  canonical : Bool := false
  parameters : List ParameterEntry := []
  deriving Repr

/-! ## Metadata -/

/-- A parameter in the metadata. -/
structure ParameterMetadata where
  name : String
  nullable : Bool := false
  deriving DecidableEq, Repr

/-- A constructor in the metadata. -/
structure ConstructorMetadata where
  visibility : DeclaredVisibility
  parameters : List ParameterMetadata := []
  deriving DecidableEq, Repr

/-- A type parameter with its bounds. -/
structure TypeParameter where
  name : String
  variance : Variance := .invariant
  bounds : List TypeRef := []
  deriving Repr

/-- The structural view of a class. -/
structure Metadata where
  kind : DeclaredKind
  visibility : DeclaredVisibility
  modality : DeclaredModality
  nesting : DeclaredNesting := .topLevel
  typeParameters : List TypeParameter := []
  constructors : List ConstructorMetadata := []
  deriving Repr

/-! ## Entries -/

/-- A class. -/
structure ClassEntry where
  name : String
  package : String
  generate : Option Generate := none
  constructors : List ConstructorEntry := []
  metadata : Option Metadata := none
  deriving Repr

/-- A further type. -/
structure TypeEntry where
  name : String
  path : Option String := none
  kind : DeclaredKind := .plain
  modality : DeclaredModality := .final
  generate : Option Generate := none
  builderModule : Option String := none
  deriving DecidableEq, Repr

end FluentBuilders.Descriptor

namespace FluentBuilders

/-- A whole descriptor. -/
structure Descriptor where
  version : Nat
  root : Option String := none
  classes : List Descriptor.ClassEntry := []
  types : List Descriptor.TypeEntry := []
  deriving Repr

namespace Descriptor

/-- The only version there is. -/
def currentVersion : Nat := 1

/-- The classes marked for generation, in order. -/
def targets (d : Descriptor) : List ClassEntry :=
  d.classes.filter (·.generate.isSome)

/-- The directory that a descriptor names for generated files, unless it is empty. -/
def outputRoot (d : Descriptor) : Option String := d.root.filter (· ≠ "")

end Descriptor

end FluentBuilders

/-
  The catalogue — the types that are known while one descriptor is processed.

  A catalogue is a list of entries with distinct paths.  It starts with the containers, then come
  the classes of the descriptor and its further types.  Declaring a path again replaces what it
  stands for but not where it stands.

  A name is looked up by its exact path first.  Failing that, it is the last entry whose name is
  the last segment of what is looked up, so that what a descriptor declares hides a container of
  the same name.
-/
import FluentBuilders.Class.Basic

namespace FluentBuilders

/-- The order that a container keeps. -/
inductive Shape
  | list
  | set
  deriving DecidableEq, Repr

/-- The builder of another class. -/
structure BuilderRef where
  builder : String
  module : String
  displayName : Option String
  deriving DecidableEq, Repr

/-- A known type. -/
structure KnownType where
  name : String
  path : String
  kind : Kind := .plain
  modality : Modality := .concrete
  shape : Option Shape := none
  builder : Option BuilderRef := none
  deriving DecidableEq, Repr

/-- Whether values of a type can be made. -/
def KnownType.isInstantiable (t : KnownType) : Bool :=
  t.kind == .plain && t.modality == .concrete

/-- The known types, in order, and the path of the support library. -/
structure Catalogue where
  types : List KnownType
  support : String
  deriving DecidableEq, Repr

namespace Catalogue

open Descriptor

/-! ## Declarations -/

/-- Declares a type: in place of the entry with its path, or at the end. -/
def declare (types : List KnownType) (t : KnownType) : List KnownType :=
  match types with
  | [] => [t]
  | u :: r => if u.path == t.path then t :: r else u :: declare r t

/-- The path of a container of the support library. -/
def supportSet (support : String) : String := Name.join support "IndexSet"

/-- The containers that need no declaration. -/
def containers (support : String) : List KnownType :=
  [{ name := "Vec", path := "::std::vec::Vec", shape := some .list },
   { name := "VecDeque", path := "::std::collections::VecDeque", shape := some .list },
   { name := "LinkedList", path := "::std::collections::LinkedList", shape := some .list },
   { name := "HashSet", path := "::std::collections::HashSet", shape := some .set },
   { name := "BTreeSet", path := "::std::collections::BTreeSet", shape := some .set },
   { name := "BinaryHeap", path := "::std::collections::BinaryHeap" },
   { name := "IndexSet", path := supportSet support, shape := some .set }]

/-- The builder of a class, which is in a module of its own beside the others unless told
    otherwise. -/
def builderRef (className : String) (g : Generate) (module : Option String) : BuilderRef :=
  let builder := Name.builder className
  { builder, module := module.getD (Name.join "super" (Name.moduleOf builder))
    displayName := g.displayName }

/-- What a class of the descriptor declares. -/
def ofClass (c : ClassEntry) : KnownType where
  name := c.name
  path := Name.join c.package c.name
  kind := (c.metadata.map (·.kind.reduced)).getD .plain
  modality := (c.metadata.map (·.modality.reduced)).getD .concrete
  builder := c.generate.map fun g => builderRef c.name g none

/-- What a further type of the descriptor declares. -/
def ofType (t : TypeEntry) : KnownType where
  name := t.name
  path := t.path.getD t.name
  kind := t.kind.reduced
  modality := t.modality.reduced
  builder := t.generate.map fun g => builderRef t.name g t.builderModule

/-- All declarations that a descriptor makes, in order. -/
def declarations (d : Descriptor) (support : String) : List KnownType :=
  containers support ++ d.classes.map ofClass ++ d.types.map ofType

/-- The catalogue of a descriptor. -/
def ofDescriptor (d : Descriptor) (support : String) : Catalogue where
  types := (declarations d support).foldl declare []
  support := support

/-! ## Looking up -/

/-- The entry that a type name stands for. -/
def resolve (c : Catalogue) (name : String) : Option KnownType :=
  c.types.find? (·.path == name)
    <|> c.types.reverse.find? (·.name == Name.lastSegment name)

/-- The shape of the container that a type name stands for. -/
def shapeOf (c : Catalogue) (name : String) : Option Shape :=
  (c.resolve name).bind (·.shape)

/-- The builder of the type that a name stands for. -/
def builderOf (c : Catalogue) (name : String) : Option BuilderRef :=
  (c.resolve name).bind (·.builder)

/-- The container that is used for a shape unless another one is asked for. -/
def defaultContainer (c : Catalogue) : Shape → Option KnownType
  | .list => c.resolve "::std::vec::Vec"
  | .set => c.resolve (supportSet c.support)

end Catalogue

end FluentBuilders

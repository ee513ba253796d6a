/-
  Categories — how a builder treats each parameter of the constructor it calls.

  A parameter whose type has a builder is filled by that builder.  Otherwise it is a collection if
  its type is a container or the parameter is marked as one, and plain if neither.  A collection
  has the first type argument as its element; it is gathered in the container that the mark names,
  or in the default container of its shape.
-/
import FluentBuilders.Catalogue
import FluentBuilders.Class.Rejection

namespace FluentBuilders

open Descriptor (CollectionOverride)

/-- How the elements of a collection parameter are gathered. -/
structure Collection where
  /-- The container, not yet applied to the element. -/
  container : TypeRef
  inline : Bool
  element : TypeRef
  shape : Shape
  overridden : Bool
  deriving Repr

/-- The container applied to the element. -/
def Collection.type (c : Collection) : TypeRef := { c.container with arguments := [c.element] }

/-- How a parameter is treated. -/
inductive Category
  | plain
  | nested (builder : BuilderRef)
  | collection (c : Collection)
  deriving Repr

/-- A parameter with its category. -/
structure ClassifiedParameter where
  name : String
  type : TypeRef
  category : Category
  deriving Repr

/-- A constructor with the categories of its parameters. -/
structure ClassifiedConstructor where
  function : String
  parameters : List ClassifiedParameter
  deriving Repr

/-- The container of a collection parameter: its path, its shape, and whether it was asked for. -/
def Catalogue.containerFor (k : Catalogue) (shape : Option Shape)
    (override : Option CollectionOverride) (unresolvable : Option String → Rejection) :
    Except Rejection (String × Shape × Bool) :=
  match override.bind (·.concreteType) with
  | some wanted =>
    match (k.resolve wanted).filter (·.isInstantiable) with
    | some t => .ok (t.path, (t.shape <|> shape).getD .list, true)
    | none => .error (unresolvable (some wanted))
  | none =>
    match shape.bind fun s => (k.defaultContainer s).map fun t => (t.path, s, false) with
    | some found => .ok found
    | none => .error (unresolvable none)

/-- How a collection parameter of a class is gathered. -/
def Parameter.collection (className : String) (k : Catalogue) (p : Parameter)
    (shape : Option Shape) : Except Rejection Collection := do
  match p.type.arguments with
  | [] => .error (.missingElementType className p.name)
  | element :: _ =>
    let (container, shape, overridden) ← k.containerFor shape p.override fun wanted =>
      .unresolvableCollection className p.name (wanted.getD p.type.name)
    .ok { container := { name := container }, inline := (p.override.map (·.inline)).getD false,
          element, shape, overridden }

/-- The category of a parameter of a class. -/
def Parameter.category (className : String) (k : Catalogue) (p : Parameter) :
    Except Rejection Category :=
  match k.builderOf p.type.name with
  | some b => .ok (.nested b)
  | none =>
    match k.shapeOf p.type.name, p.override with
    | none, none => .ok .plain
    | shape, _ => .collection <$> p.collection className k shape

/-- The parameter with its category. -/
def Parameter.classify (className : String) (k : Catalogue) (p : Parameter) :
    Except Rejection ClassifiedParameter := do
  let category ← p.category className k
  .ok { name := p.name, type := p.type, category }

/-- The constructor with the categories of its parameters. -/
def Constructor.classify (className : String) (k : Catalogue) (c : Constructor) :
    Except Rejection ClassifiedConstructor := do
  let parameters ← c.parameters.mapM (·.classify className k)
  .ok { function := c.function, parameters }

end FluentBuilders

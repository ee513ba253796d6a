/-
  Synthesis — from a class and its classified constructor to the plan of its builder.

  Fields, methods and types of a builder are three spaces of names.  Every name is claimed when it
  is first used, in the order in which the parameters are declared, and a name that is claimed
  twice rejects the class.  The names of every builder are claimed last.
-/
import FluentBuilders.Builder.Plan
import FluentBuilders.Category

namespace FluentBuilders.Synthesis

open Descriptor (TypeParameter)

/-! ## Names -/

/-- The spaces of names. -/
inductive Space
  | field
  | method
  | type
  deriving DecidableEq, Repr

/-- A name in its space. -/
structure Member where
  space : Space
  name : String
  deriving DecidableEq, Repr

/-- The field that ties the type parameters of a builder to it. -/
def phantomField : String := "_phantom"

/-- The methods of every builder. -/
def commonMethods : List String := ["new", "build"]

/-! ## Drafts -/

/-- A plan under way. -/
structure Draft where
  imports : List String
  properties : List Property := []
  setters : List Setter := []
  functions : List PlannedFunction := []
  storages : List Storage := []
  scopes : List ScopeType := []
  claimed : List Member := []
  deriving Repr

/-- The draft of a builder before its first parameter. -/
def Draft.empty (c : Class) : Draft := { imports := [Name.join c.package "*"] }

/-- Claims a name for a builder. -/
def Draft.claim (d : Draft) (builder : String) (space : Space) (name : String) :
    Except Rejection Draft :=
  if d.claimed.contains ⟨space, name⟩ then .error (.nameCollision builder name)
  else .ok { d with claimed := d.claimed ++ [⟨space, name⟩] }

/-- Adds an import unless it is there. -/
def Draft.include (d : Draft) (path : String) : Draft :=
  if d.imports.contains path then d else { d with imports := d.imports ++ [path] }

/-! ## Parameters -/

/-- Adds the property and the setter of a parameter. -/
def Draft.addProperty (d : Draft) (builder : String) (p : ClassifiedParameter) :
    Except Rejection Draft := do
  let mutator := Name.mutator p.name
  let setter := Name.setter p.name
  let d ← d.claim builder .field p.name
  let d ← d.claim builder .method mutator
  let d ← d.claim builder .method setter
  .ok { d with
    properties := d.properties ++
      [{ name := p.name, mutator, type := p.type,
         start := if p.type.nullable then .absent else .unset }]
    setters := d.setters ++ [{ name := setter, mutator, type := p.type }] }

/-- Adds the function that runs a nested builder. -/
def Draft.addNested (d : Draft) (c : Class) (p : ClassifiedParameter) (nested : BuilderRef) :
    Except Rejection Draft := do
  let builder := Name.builder c.name
  let function := nested.displayName.getD p.name
  if !Name.isIdentifier function then
    .error (.invalidName c.name function .displayName)
  else
    let d ← d.claim builder .method function
    let d := if nested.builder ≠ builder then d.include (Name.join nested.module nested.builder)
      else d
    .ok { d with
      functions := d.functions ++
        [.nested function p.name { name := nested.builder, arguments := p.type.arguments }
          p.type.nullable] }

/-- Adds the function and the storage of an inline collection. -/
def Draft.addInsert (d : Draft) (builder : String) (p : ClassifiedParameter) (k : Collection) :
    Except Rejection Draft := do
  let function := Name.insert p.name
  let storage := Name.storage p.name
  let d ← d.claim builder .method function
  let d ← d.claim builder .field storage
  .ok { d with
    storages := d.storages ++
      [{ name := storage, property := p.name, container := k.type, nullable := p.type.nullable }]
    functions := d.functions ++ [.insert function storage k.element] }

/-- Adds the function and the scope type of any other collection. -/
def Draft.addScope (d : Draft) (c : Class) (p : ClassifiedParameter) (k : Collection) :
    Except Rejection Draft := do
  let builder := Name.builder c.name
  let scope := Name.scope p.name
  let d ← d.claim builder .method p.name
  let d ← d.claim builder .type scope
  let parameters := c.typeParameters.filter fun t => k.element.mentions t.name
  .ok { d with
    scopes := d.scopes ++
      [{ name := scope, typeParameters := parameters, element := k.element, container := k.type }]
    functions := d.functions ++
      [.scope p.name p.name (.applied scope (parameters.map (·.name))) p.type.nullable] }

/-- Adds everything that a parameter gives. -/
def Draft.addParameter (d : Draft) (c : Class) (p : ClassifiedParameter) :
    Except Rejection Draft := do
  let builder := Name.builder c.name
  let d ← d.addProperty builder p
  match p.category with
  | .plain => .ok d
  | .nested b => d.addNested c p b
  | .collection k => if k.inline then d.addInsert builder p k else d.addScope c p k

/-- Claims the names that every builder has. -/
def Draft.claimCommon (d : Draft) (c : Class) : Except Rejection Draft := do
  let builder := Name.builder c.name
  let d ← commonMethods.foldlM (fun d name => d.claim builder .method name) d
  let d ← if c.typeParameters.isEmpty then .ok d else d.claim builder .field phantomField
  d.claim builder .type builder

/-- The plan that a finished draft stands for. -/
def Draft.finish (d : Draft) (c : Class) (function : String) : Plan :=
  let builder := Name.builder c.name
  { builder
    className := c.name
    package := c.package
    module := Name.moduleOf builder
    internal := c.isInternal
    typeParameters := c.typeParameters
    imports := d.imports
    properties := d.properties
    setters := d.setters
    functions := d.functions
    storages := d.storages
    scopes := d.scopes
    build :=
      { classType := c.selfType, constructor := function,
        arguments := d.properties.map (·.name) }
    entry := { name := Name.entry c.displayName c.name, internal := c.isInternal } }

end FluentBuilders.Synthesis

namespace FluentBuilders

open Synthesis

/-- The plan of the builder that calls a constructor of a class. -/
def Plan.synthesize (c : Class) (k : ClassifiedConstructor) : Except Rejection Plan := do
  let d ← k.parameters.foldlM (fun d p => d.addParameter c p) (Draft.empty c)
  let d ← d.claimCommon c
  .ok (d.finish c k.function)

end FluentBuilders

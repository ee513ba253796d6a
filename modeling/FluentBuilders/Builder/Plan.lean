/-
  Builder plans — everything there is to say about one generated builder, before any of it is
  written as code.

  Every parameter of the constructor gives one property and one setter, in order.  Nested builders
  and collections add functions; an inline collection adds a storage and any other collection adds
  a scope type.  Names are plain here: a keyword is escaped where it is written, not before.
-/
import FluentBuilders.Class.Basic

namespace FluentBuilders

open Descriptor (TypeParameter)

/-- What a property holds before anything is assigned to it. -/
inductive Start
  /-- Nothing: it must be assigned. -/
  | unset
  /-- The absent value. -/
  | absent
  deriving DecidableEq, Repr

/-- A property of a builder. -/
structure Property where
  name : String
  mutator : String
  type : TypeRef
  start : Start
  deriving Repr

/-- A chained setter. -/
structure Setter where
  name : String
  mutator : String
  type : TypeRef
  deriving Repr

/-- A further function of a builder. -/
inductive PlannedFunction
  /-- Runs a nested builder and assigns its result to a property. -/
  | nested (name property : String) (builder : TypeRef) (nullable : Bool)
  /-- Fills a collection scope and assigns its contents to a property. -/
  | scope (name property : String) (scope : TypeRef) (nullable : Bool)
  /-- Adds one element to a storage. -/
  | insert (name storage : String) (element : TypeRef)
  deriving Repr

/-- The name of a further function. -/
def PlannedFunction.name : PlannedFunction → String
  | .nested n _ _ _ | .scope n _ _ _ | .insert n _ _ => n

/-- Where a builder keeps the elements added to an inline collection. -/
structure Storage where
  name : String
  property : String
  container : TypeRef
  nullable : Bool
  deriving Repr

/-- A type in which the elements of a collection are added. -/
structure ScopeType where
  name : String
  typeParameters : List TypeParameter
  element : TypeRef
  container : TypeRef
  deriving Repr

/-- The scope type applied to its own type parameters. -/
def ScopeType.selfType (s : ScopeType) : TypeRef :=
  .applied s.name (s.typeParameters.map (·.name))

/-- How the finished value is made. -/
structure BuildStep where
  classType : TypeRef
  constructor : String
  /-- The properties passed to the constructor. -/
  arguments : List String
  deriving Repr

/-- The function that callers start from. -/
structure EntryPoint where
  name : String
  internal : Bool
  deriving DecidableEq, Repr

/-- A generated builder. -/
structure Plan where
  builder : String
  className : String
  package : String
  module : String
  internal : Bool
  typeParameters : List TypeParameter
  imports : List String
  properties : List Property
  setters : List Setter
  functions : List PlannedFunction
  storages : List Storage
  scopes : List ScopeType
  build : BuildStep
  entry : EntryPoint
  deriving Repr

namespace Plan

/-- Whether the builder has type parameters. -/
def isGeneric (p : Plan) : Bool := !p.typeParameters.isEmpty

/-- The builder applied to its own type parameters. -/
def selfType (p : Plan) : TypeRef := .applied p.builder (p.typeParameters.map (·.name))

end Plan

end FluentBuilders

/-
  Emission — the plan of a builder as a code tree.

  A module holds the builder with its defaults and its methods, then the scope types, then the
  entry function.  Everything has a tree if every name of the plan has a spelling.  The path of
  the support library is put in as it was read, not through its text.
-/
import FluentBuilders.Builder.Plan
import FluentBuilders.Code.Acceptance
import FluentBuilders.Code.Idiom
import FluentBuilders.Code.Spelling

namespace FluentBuilders

open Code

/-! ## The builder type -/

/-- The imports of the module. -/
def Plan.imports? (p : Plan) : Option (List Path) := p.imports.mapM Path.ofName?

/-- The field of a property. -/
def Property.field? (support : Path) (p : Property) : Option (Ident × Ty) := do
  let name ← Ident.ofName? p.name
  let type ← Ty.ofRef? p.type
  some (name, .path ((support.push (.word "Slot")).of [type]))

/-- The field of a storage. -/
def Storage.field? (support : Path) (s : Storage) : Option (Ident × Ty) := do
  let name ← Ident.ofName? s.name
  let container ← Ty.ofRef? s.container
  some (name, .path (.optionOf (collectorTy support container)))

/-- The field that ties type parameters to the builder. -/
def Plan.phantomIdent : Ident := plain "_phantom"

/-- The field for the type parameters, if there are any. -/
def Plan.phantomField? (p : Plan) : Option (List (Ident × Ty)) :=
  if p.isGeneric then do
    let type ← phantomOf? p.typeParameters
    some [(Plan.phantomIdent, type)]
  else some []

/-- The builder type. -/
def Plan.struct? (support : Path) (p : Plan) : Option Item := do
  let name ← Ident.ofName? p.builder
  let generics ← genericsOf? p.typeParameters
  let properties ← p.properties.mapM (Property.field? support)
  let storages ← p.storages.mapM (Storage.field? support)
  let phantom ← p.phantomField?
  some (.struct (.ofInternal p.internal) name generics (properties ++ storages ++ phantom))

/-! ## Defaults -/

/-- The value that a property starts with. -/
def Start.value (support : Path) : Start → Expr
  | .unset => .path ((support.push (.word "Slot")).push (.word "Unset"))
  | .absent => callOf (.path ((support.push (.word "Slot")).push (.word "absent"))) []

/-- The default of a property. -/
def Property.default? (support : Path) (p : Property) : Option (Ident × Expr) := do
  let name ← Ident.ofName? p.name
  some (name, Start.value support p.start)

/-- The default of a storage. -/
def Storage.default? (s : Storage) : Option (Ident × Expr) := do
  let name ← Ident.ofName? s.name
  some (name, noneValue)

/-- The default of the field for the type parameters. -/
def Plan.phantomDefault (p : Plan) : List (Ident × Expr) :=
  if p.isGeneric then [(Plan.phantomIdent, .path (.root ["core", "marker", "PhantomData"]))] else []

/-- The defaults of the builder. -/
def Plan.default? (support : Path) (p : Plan) : Option Item := do
  let generics ← genericsOf? p.typeParameters
  let target ← Path.ofRef? p.selfType
  let properties ← p.properties.mapM (Property.default? support)
  let storages ← p.storages.mapM Storage.default?
  some (.impl generics (some defaultTrait) target
    [{ scope := .here, name := plain "default", params := [], result := some selfTy,
       body := [.result (selfValue (properties ++ storages ++ p.phantomDefault)).settled] }])

/-! ## Methods -/

/-- The statements that discard the elements stored for a property. -/
def Plan.clearStorages? (p : Plan) (property : String) : Option (List Stmt) :=
  (p.storages.filter (·.property == property)).mapM fun s => do
    let name ← Ident.ofName? s.name
    some (.run (.assign (ownField name) noneValue))

/-- The method that sets a property.  What was stored for it is discarded first. -/
def Plan.mutator? (p : Plan) (q : Property) : Option Function := do
  let field ← Ident.ofName? q.name
  let name ← Ident.ofName? q.mutator
  let type ← Ty.ofRef? q.type
  let clear ← p.clearStorages? q.name
  some (chainMethod name (.typed (plain "value") (someTy (intoTrait type)))
    (clear ++ [setField field (methodOf (var "value") (plain "into") [])]))

/-- The method that sets a property of a builder that is passed on. -/
def Setter.emit? (s : Setter) (q : Property) : Option Function := do
  let name ← Ident.ofName? s.name
  let mutator ← Ident.ofName? q.mutator
  let type ← Ty.ofRef? q.type
  some
    { scope := .everywhere, name
      params := [.selfValue true, .typed (plain "value") (someTy (intoTrait type))]
      result := some selfTy
      body := [.run (methodOf (var "self") mutator [var "value"]), returnSelf] }

/-- The two methods of a property. -/
def Plan.propertyMethods? (p : Plan) (q : Property) (s : Setter) : Option (List Function) := do
  let mutator ← p.mutator? q
  let setter ← s.emit? q
  some [mutator, setter]

/-- The method that runs a block on a nested builder and keeps what it builds. -/
def PlannedFunction.nestedMethod? (name property : String) (builder : TypeRef) (nullable : Bool) :
    Option Function := do
  let name ← Ident.ofName? name
  let field ← Ident.ofName? property
  let type ← Ty.ofRef? builder
  let called ← Path.calledRef? builder
  let built := methodOf (var "builder") (plain "build") []
  let result :=
    if nullable then methodOf built (plain "map") [.path someFunction] else built
  some (chainMethod name (.typed (plain "block") (someTy (blockTrait type)))
    [letMut (plain "builder") (newCall called), runBlock "builder",
     .run (methodOf (ownField field) (plain "assign") [result])])

/-- The method that runs a block on a scope and keeps what it collected. -/
def PlannedFunction.scopeMethod? (name property : String) (scope : TypeRef) (nullable : Bool) :
    Option Function := do
  let name ← Ident.ofName? name
  let field ← Ident.ofName? property
  let type ← Ty.ofRef? scope
  let called ← Path.calledRef? scope
  let collected :=
    methodOf (.field (var "scope") (plain "collection")) (plain "into_collection") []
  some (chainMethod name (.typed (plain "block") (someTy (blockTrait type)))
    [letMut (plain "scope") (newCall called), runBlock "scope",
     setField field (present nullable collected)])

/-- The method that stores one element. -/
def PlannedFunction.insertMethod? (name storage : String) (element : TypeRef) :
    Option Function := do
  let name ← Ident.ofName? name
  let storage ← Ident.ofName? storage
  let type ← Ty.ofRef? element
  let stored :=
    methodOf (ownField storage) (plain "get_or_insert_with") [.path defaultFunction]
  some (chainMethod name (.typed (plain "item") type)
    [.run (methodOf stored (plain "push") [var "item"])])

/-- The method of a further function. -/
def PlannedFunction.method? : PlannedFunction → Option Function
  | .nested n p builder nullable => nestedMethod? n p builder nullable
  | .scope n p type nullable => scopeMethod? n p type nullable
  | .insert n storage element => insertMethod? n storage element

/-- The statement that moves what was stored into its property. -/
def Storage.flush? (s : Storage) : Option Stmt := do
  let field ← Ident.ofName? s.property
  let name ← Ident.ofName? s.name
  let collected := methodOf (var "items") (plain "into_collection") []
  some (ifLet someFunction (plain "items") (methodOf (ownField name) (plain "take") [])
    [setField field (present s.nullable collected)])

/-- The value of a property, or an early return of the error that it was never set. -/
def Plan.argument? (p : Plan) (name : String) : Option Expr := do
  let field ← Ident.ofName? name
  some (.attempt (methodOf (ownField field) (plain "into_value")
    [textLiteral p.builder, textLiteral name]))

/-- The method that makes the value. -/
def Plan.buildMethod? (support : Path) (p : Plan) : Option Function := do
  let classTy ← Ty.ofRef? p.build.classType
  let called ← Path.calledRef? p.build.classType
  let constructor ← Ident.ofName? p.build.constructor
  let flushes ← p.storages.mapM Storage.flush?
  let arguments ← p.build.arguments.mapM p.argument?
  let made := callOf (.path (called.push (.ofIdent constructor))) arguments
  some
    { scope := .everywhere, name := plain "build"
      params := [.selfValue (!p.storages.isEmpty)]
      result := some (resultTy support classTy)
      body := flushes ++
        [.result (callOf (.path (.root ["core", "result", "Result", "Ok"])) [made])] }

/-- The methods of the builder. -/
def Plan.methods? (support : Path) (p : Plan) : Option Item := do
  let generics ← genericsOf? p.typeParameters
  let target ← Path.ofRef? p.selfType
  let members ← (p.properties.zip p.setters).mapM fun (q, s) => p.propertyMethods? q s
  let functions ← p.functions.mapM PlannedFunction.method?
  let build ← p.buildMethod? support
  some (.impl generics none target (newFunction :: members.flatten ++ functions ++ [build]))

/-- The builder with its defaults and its methods. -/
def Plan.body? (support : Path) (p : Plan) : Option (List Item) := do
  let struct ← p.struct? support
  let defaults ← p.default? support
  let methods ← p.methods? support
  some [struct, defaults, methods]

/-! ## Scope types -/

/-- A scope type with its functions. -/
def ScopeType.items? (support : Path) (internal : Bool) (s : ScopeType) :
    Option (List Item) := do
  let name ← Ident.ofName? s.name
  let generics ← genericsOf? s.typeParameters
  let target ← Path.ofRef? s.selfType
  let container ← Ty.ofRef? s.container
  let element ← Ty.ofRef? s.element
  let field := plain "collection"
  some
    [.struct (.ofInternal internal) name generics [(field, collectorTy support container)],
     .impl generics none target
      [{ scope := .here, name := plain "new", params := [], result := some selfTy,
         body := [.result (selfValue [(field, callOf (.path defaultFunction) [])])] },
       chainMethod (plain "add") (.typed (plain "item") element)
        [.run (methodOf (ownField field) (plain "push") [var "item"])]]]

/-- The scope types of the builder. -/
def Plan.scopes? (support : Path) (p : Plan) : Option (List (List Item)) :=
  p.scopes.mapM (ScopeType.items? support p.internal)

/-! ## The entry function -/

/-- The function that runs a block on an empty builder and builds. -/
def Plan.entry? (support : Path) (p : Plan) : Option Item := do
  let name ← Ident.ofName? p.entry.name
  let generics ← genericsOf? p.typeParameters
  let type ← Ty.ofRef? p.selfType
  let called ← Path.calledRef? p.selfType
  let classTy ← Ty.ofRef? p.build.classType
  some (.function
    { scope := .ofInternal p.entry.internal, name, generics
      params := [.typed (plain "block") (someTy (blockTrait type))]
      comma := true
      result := some (resultTy support classTy)
      body :=
        [letMut (plain "builder") (newCall called), runBlock "builder",
         .result (methodOf (var "builder") (plain "build") [])] })

/-! ## Modules -/

/-- The lints that generated modules are exempt from. -/
def Plan.exemptions : List (List String) :=
  [["clippy", "must_use_candidate"], ["clippy", "new_without_default"],
   ["clippy", "return_self_not_must_use"], ["dead_code"], ["non_snake_case"], ["unused_imports"]]

/-- The module of a builder. -/
def Plan.module? (support : Path) (p : Plan) : Option Module := do
  let imports ← p.imports?
  let body ← p.body? support
  let scopes ← p.scopes? support
  let entry ← p.entry? support
  some
    { exempt := Plan.exemptions
      items := imports.map Item.use ++ body ++ scopes.flatten ++ [entry] }

/-- The declaration of a builder's module and what it makes available. -/
def Plan.declaration? (p : Plan) : Option (List Item) := do
  let module ← Ident.ofName? p.module
  let builder ← Ident.ofName? p.builder
  let entry ← Ident.ofName? p.entry.name
  let scope := Scope.ofInternal p.internal
  some [.submodule scope module, .reexport scope module [builder, entry]]

/-- The module that ties the modules of some builders together. -/
def indexModule? (plans : List Plan) : Option Module := do
  let declarations ← plans.mapM (·.declaration?)
  some { items := declarations.flatten }

end FluentBuilders

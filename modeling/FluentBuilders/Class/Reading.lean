/-
  Reading classes — from a class entry to the facts that the later decisions need.

  The declared view provides names, types and directives, the metadata provides structural flags
  and nullability.  Names are checked before anything else, then the type parameters, then the
  constructors one by one; the first thing that is wrong rejects the class.

  A type parameter that varies against its class is reported when it is read, also if a later
  check rejects the class; one that varies with its class is dropped silently.
-/
import FluentBuilders.Class.Rejection

namespace FluentBuilders.Class

open Descriptor

/-- The facts about a class and its constructors. -/
structure Facts where
  subject : Class
  constructors : List Constructor
  deriving Repr

/-- Accepts a name that is good for its role. -/
def checkName (className name : String) (role : NameRole) (good : String → Bool) :
    Except Rejection Unit :=
  if good name then .ok () else .error (.invalidName className name role)

/-! ## Type parameters -/

/-- Accepts a type parameter whose name and bounds are well formed. -/
def checkTypeParameter (className : String) (p : TypeParameter) : Except Rejection Unit := do
  checkName className p.name .typeParameter Name.isIdentifier
  match TypeRef.badNameIn? p.bounds with
  | some name => .error (.invalidName className name .bound)
  | none => .ok ()

/-- What is reported about a well-formed type parameter. -/
def noticesOf (className : String) (p : TypeParameter) : List Notice :=
  if p.variance = .contravariant then [⟨className, p.name, p.variance⟩] else []

/-- Reads the type parameters of a class up to the first one that is not well formed. -/
def readTypeParameters (className : String) :
    List TypeParameter → List Notice × Except Rejection Unit
  | [] => ([], .ok ())
  | p :: ps =>
    match checkTypeParameter className p with
    | .error e => ([], .error e)
    | .ok () =>
      let (notices, verdict) := readTypeParameters className ps
      (noticesOf className p ++ notices, verdict)

/-! ## Constructors -/

/-- Reads a parameter.  `seen` holds the names of the parameters before it. -/
def readParameter (className function : String) (seen : List String) (p : ParameterEntry)
    (m : ParameterMetadata) : Except Rejection Parameter :=
  if p.name ≠ m.name then
    .error (.inconsistent className (.parameterName function p.name m.name))
  else if !Name.isIdentifier p.name then
    .error (.invalidParameter className p.name .notIdentifier)
  else if seen.contains p.name then
    .error (.invalidParameter className p.name .repeated)
  else match p.type.badName? with
    | some name => .error (.invalidParameter className p.name (.badType name))
    | none =>
      .ok { name := p.name, type := { p.type with nullable := m.nullable }, override := p.override }

/-- Reads the parameters of a constructor. -/
def readParameters (className function : String) (seen : List String) :
    List ParameterEntry → List ParameterMetadata → Except Rejection (List Parameter)
  | p :: ps, m :: ms => do
    let q ← readParameter className function seen p m
    let qs ← readParameters className function (p.name :: seen) ps ms
    .ok (q :: qs)
  | _, _ => .ok []

/-- Reads a constructor. -/
def readConstructor (className : String) (c : ConstructorEntry) (m : ConstructorMetadata) :
    Except Rejection Constructor := do
  checkName className c.function .constructorFunction Name.isIdentifier
  if c.parameters.length ≠ m.parameters.length then
    .error (.inconsistent className
      (.parameterCount c.function c.parameters.length m.parameters.length))
  else
    let parameters ← readParameters className c.function [] c.parameters m.parameters
    .ok { function := c.function, visibility := m.visibility.reduced, canonical := c.canonical,
          parameters }

/-- Reads the constructors of a class. -/
def readConstructors (className : String) :
    List ConstructorEntry → List ConstructorMetadata → Except Rejection (List Constructor)
  | c :: cs, m :: ms => do
    let d ← readConstructor className c m
    let ds ← readConstructors className cs ms
    .ok (d :: ds)
  | _, _ => .ok []

/-! ## The class -/

/-- Accepts a class whose own names are well formed. -/
def checkNames (e : ClassEntry) : Except Rejection Unit := do
  checkName e.name e.name .className Name.isIdentifier
  checkName e.name e.package .package Name.isPath
  match e.generate.bind (·.displayName) with
  | some name => checkName e.name name .displayName Name.isIdentifier
  | none => .ok ()

/-- The facts about a class whose names and type parameters are well formed. -/
def readBody (e : ClassEntry) (m : Metadata) : Except Rejection Facts :=
  if e.constructors.length ≠ m.constructors.length then
    .error (.inconsistent e.name (.constructorCount e.constructors.length m.constructors.length))
  else do
    let constructors ← readConstructors e.name e.constructors m.constructors
    .ok { constructors
          subject :=
            { name := e.name, package := e.package, visibility := m.visibility.reduced
              modality := m.modality.reduced, kind := m.kind.reduced, nesting := m.nesting.reduced
              displayName := e.generate.bind (·.displayName)
              typeParameters := m.typeParameters } }

/-- Reads a class: what is reported on the way, and the facts or the rejection. -/
def read (e : ClassEntry) : List Notice × Except Rejection Facts :=
  match e.metadata with
  | none => ([], .error (.notIntrospectable e.name))
  | some m =>
    match checkNames e with
    | .error r => ([], .error r)
    | .ok () =>
      match readTypeParameters e.name m.typeParameters with
      | (notices, .error r) => (notices, .error r)
      | (notices, .ok ()) => (notices, readBody e m)

end FluentBuilders.Class

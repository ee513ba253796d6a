/-
  Spellings — names, types and type parameters as code.

  A path given as text is cut at its separators; each segment becomes an identifier, escaped if it
  has to be, and a lone star stays a star.  A text with a segment that is no word has no spelling.
  Names that were checked when the class was read always have one.
-/
import FluentBuilders.Code.Tree
import FluentBuilders.Descriptor.Basic

namespace FluentBuilders.Code

open Descriptor (TypeParameter)

/-! ## Paths -/

/-- The segment for a name. -/
def Segment.ofName? (name : String) : Option Segment :=
  if name = "*" then some (.mk .star .none) else .ofIdent <$> Ident.ofName? name

/-- The path for a text. -/
def Path.ofName? (name : String) : Option Path := do
  let segments ← (Name.split name).2.mapM Segment.ofName?
  some (.mk (Name.split name).1 segments)

/-! ## Types -/

/-- The option type of a type. -/
def Path.optionOf (t : Ty) : Path := (Path.root ["core", "option", "Option"]).of [t]

mutual

/-- The path for a type. -/
def Path.ofRef? : TypeRef → Option Path
  | ⟨name, arguments, nullable⟩ => do
    let path ← Path.ofName? name
    let items ← Ty.ofRefs? arguments
    let base := path.of items
    some (if nullable then .optionOf (.path base) else base)

/-- The types for several types. -/
def Ty.ofRefs? : List TypeRef → Option (List Ty)
  | [] => some []
  | t :: ts => do
    let p ← Path.ofRef? t
    let items ← Ty.ofRefs? ts
    some (.path p :: items)

end

/-- The type for a type. -/
def Ty.ofRef? (t : TypeRef) : Option Ty := .path <$> Path.ofRef? t

/-- The path for a type whose functions are called, nullability aside. -/
def Path.calledRef? (t : TypeRef) : Option Path := do
  let path ← Path.ofName? t.name
  let items ← Ty.ofRefs? t.arguments
  some (path.turbo items)

/-! ## Type parameters -/

/-- The type parameter for a type parameter. -/
def Generic.ofParameter? (p : TypeParameter) : Option Generic := do
  let name ← Ident.ofName? p.name
  let bounds ← p.bounds.mapM Path.ofRef?
  some { name, bounds }

/-- The type parameters for a list of type parameters. -/
def genericsOf? (ps : List TypeParameter) : Option (List Generic) :=
  ps.mapM Generic.ofParameter?

/-- The type of a field that ties type parameters to their owner without owning a value. -/
def phantomOf? (ps : List TypeParameter) : Option Ty := do
  let names ← ps.mapM fun p => Ident.ofName? p.name
  let items := names.map fun i => Ty.path (.ofIdent i)
  some (.path ((Path.root ["core", "marker", "PhantomData"]).of
    [.function {} [] none false (some (.tuple items true))]))

end FluentBuilders.Code

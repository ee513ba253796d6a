/-
  Writing descriptors — every field in declaration order, with the absent optional values and the
  empty argument lists left out.
-/
import FluentBuilders.Json.Value
import FluentBuilders.Descriptor.Basic

namespace FluentBuilders.Descriptor

open FluentBuilders (Json)

/-! ## Words of the structural flags -/

/-- The word of each kind. -/
def kindWords : List (String × DeclaredKind) :=
  [("class", .plain), ("enum_class", .enumeration), ("interface", .interface),
   ("object", .object), ("annotation_class", .marker)]

/-- The word of each visibility. -/
def visibilityWords : List (String × DeclaredVisibility) :=
  [("public", .pub), ("internal", .internal), ("protected", .prot), ("private", .priv)]

/-- The word of each modality. -/
def modalityWords : List (String × DeclaredModality) :=
  [("final", .final), ("open", .inheritable), ("abstract", .abstract), ("sealed", .sealed)]

/-- The word of each nesting. -/
def nestingWords : List (String × DeclaredNesting) :=
  [("top_level", .topLevel), ("nested", .nested), ("inner", .inner), ("local", .inBlock)]

/-- The word of each variance. -/
def varianceWords : List (String × Variance) :=
  [("invariant", .invariant), ("in", .contravariant), ("out", .covariant)]

/-- The word of a value in a list of words. -/
def wordOf {α : Type} [DecidableEq α] (words : List (String × α)) (a : α) : String :=
  ((words.find? (·.2 == a)).map (·.1)).getD ""

/-- The word of a value as JSON. -/
def wordJson {α : Type} [DecidableEq α] (words : List (String × α)) (a : α) : Json :=
  .text (wordOf words a)

/-! ## Values -/

/-- A member that is left out when it is absent. -/
def optionalMember (key : String) : Option Json → List (String × Json)
  | some v => [(key, v)]
  | none => []

mutual

/-- A type. -/
def typeJson : TypeRef → Json
  | ⟨name, arguments, nullable⟩ =>
    .object (("name", .text name)
      :: (match arguments with
          | [] => []
          | t :: ts => [("arguments", .list (typeJson t :: typeJsonList ts))])
      ++ [("nullable", .bool nullable)])

/-- Several types. -/
def typeJsonList : List TypeRef → List Json
  | [] => []
  | t :: ts => typeJson t :: typeJsonList ts

end

/-- A generation mark. -/
def Generate.json (g : Generate) : Json := .object [("name", .text g.name)]

/-- A collection mark. -/
def CollectionOverride.json (o : CollectionOverride) : Json :=
  .object (optionalMember "concrete_type" (o.concreteType.map .text)
    ++ [("inline", .bool o.inline)])

/-- A declared parameter. -/
def ParameterEntry.json (p : ParameterEntry) : Json :=
  .object [("name", .text p.name), ("type", typeJson p.type),
    ("directives", .object (optionalMember "collection_override" (p.override.map (·.json))))]

/-- A declared constructor. -/
def ConstructorEntry.json (c : ConstructorEntry) : Json :=
  .object [("function", .text c.function),
    ("directives", .object [("canonical_constructor", .bool c.canonical)]),
    ("parameters", .list (c.parameters.map (·.json)))]

/-- A parameter in the metadata. -/
def ParameterMetadata.json (p : ParameterMetadata) : Json :=
  .object [("name", .text p.name), ("nullable", .bool p.nullable)]

/-- A constructor in the metadata. -/
def ConstructorMetadata.json (c : ConstructorMetadata) : Json :=
  .object [("visibility", wordJson visibilityWords c.visibility),
    ("parameters", .list (c.parameters.map (·.json)))]

/-- A type parameter. -/
def TypeParameter.json (p : TypeParameter) : Json :=
  .object [("name", .text p.name), ("variance", wordJson varianceWords p.variance),
    ("bounds", .list (typeJsonList p.bounds))]

/-- The metadata of a class. -/
def Metadata.json (m : Metadata) : Json :=
  .object [("kind", wordJson kindWords m.kind),
    ("visibility", wordJson visibilityWords m.visibility),
    ("modality", wordJson modalityWords m.modality),
    ("nesting", wordJson nestingWords m.nesting),
    ("type_parameters", .list (m.typeParameters.map (·.json))),
    ("constructors", .list (m.constructors.map (·.json)))]

/-- A class. -/
def ClassEntry.json (c : ClassEntry) : Json :=
  .object ([("name", .text c.name), ("package", .text c.package),
    ("directives", .object (optionalMember "generate" (c.generate.map (·.json)))),
    ("constructors", .list (c.constructors.map (·.json)))]
    ++ optionalMember "metadata" (c.metadata.map (·.json)))

/-- A further type. -/
def TypeEntry.json (t : TypeEntry) : Json :=
  .object ([("name", .text t.name)]
    ++ optionalMember "path" (t.path.map .text)
    ++ [("kind", wordJson kindWords t.kind), ("modality", wordJson modalityWords t.modality)]
    ++ optionalMember "generate" (t.generate.map (·.json))
    ++ optionalMember "builder_module" (t.builderModule.map .text))

/-- A whole descriptor. -/
def json (d : Descriptor) : Json :=
  .object ([("format_version", Json.ofNat d.version)]
    ++ optionalMember "generated_sources_root" (d.root.map .text)
    ++ [("classes", .list (d.classes.map (·.json))), ("types", .list (d.types.map (·.json)))])

/-- The text of a descriptor. -/
def text (d : Descriptor) : String := d.json.compact

end FluentBuilders.Descriptor

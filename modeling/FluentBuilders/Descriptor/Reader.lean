/-
  Reading descriptors — the form of each record, and loading a whole file.

  Loading reads the first value of the file and looks at nothing behind it; only a descriptor that
  could be read is asked for its version.
-/
import FluentBuilders.Json.Reading
import FluentBuilders.Descriptor.Printer

namespace FluentBuilders.Descriptor

open FluentBuilders.Json

/-! ## Types -/

/-- The form of a type, given the reader of its arguments. -/
def typeForm (argument : Reader TypeRef) : Form TypeRef where
  name := "RawType"
  start := { name := "" }
  fields :=
    [.of "name" true readText fun t v => { t with name := v },
     .of "arguments" false (readList argument) fun t v => { t with arguments := v },
     .of "nullable" false readFlag fun t v => { t with nullable := v }]

/-- Reads a type that has at most so many levels of arguments. -/
def readTypeOf : (levels : Nat) → Reader TypeRef
  | 0 => (typeForm fun _ t => failAt t.start .tooDeep).read
  | levels + 1 => (typeForm (readTypeOf levels)).read

/-- Reads a type.  Each level of arguments enters two levels of the document. -/
def readType : Reader TypeRef := fun room t => readTypeOf room room t

/-! ## Directives -/

/-- The form of a generation mark. -/
def generateForm : Form Generate where
  name := "GenerateDirective"
  start := {}
  fields := [.of "name" false readText fun g v => { g with name := v }]

/-- The form of the directives on a class. -/
def classDirectivesForm : Form (Option Generate) where
  name := "ClassDirectives"
  start := none
  fields := [.of "generate" false (readOption generateForm.read) fun _ v => v]

/-- The form of the directives on a constructor. -/
def constructorDirectivesForm : Form Bool where
  name := "ConstructorDirectives"
  start := false
  fields := [.of "canonical_constructor" false readFlag fun _ v => v]

/-- The form of a collection mark. -/
def overrideForm : Form CollectionOverride where
  name := "CollectionOverride"
  start := {}
  fields :=
    [.of "concrete_type" false (readOption readText) fun o v => { o with concreteType := v },
     .of "inline" false readFlag fun o v => { o with inline := v }]

/-- The form of the directives on a parameter. -/
def parameterDirectivesForm : Form (Option CollectionOverride) where
  name := "ParameterDirectives"
  start := none
  fields := [.of "collection_override" false (readOption overrideForm.read) fun _ v => v]

/-! ## Declared constructors -/

/-- The form of a declared parameter. -/
def parameterForm : Form ParameterEntry where
  name := "ParameterEntry"
  start := { name := "", type := { name := "" } }
  fields :=
    [.of "name" true readText fun p v => { p with name := v },
     .of "type" true readType fun p v => { p with type := v },
     .of "directives" false parameterDirectivesForm.read fun p v => { p with override := v }]

/-- The form of a declared constructor. -/
def constructorForm : Form ConstructorEntry where
  name := "ConstructorEntry"
  start := {}
  fields :=
    [.of "function" false readText fun c v => { c with function := v },
     .of "directives" false constructorDirectivesForm.read fun c v => { c with canonical := v },
     .of "parameters" false (readList parameterForm.read) fun c v => { c with parameters := v }]

/-! ## Metadata -/

/-- The form of a parameter in the metadata. -/
def parameterMetadataForm : Form ParameterMetadata where
  name := "ParameterMetadata"
  start := { name := "" }
  fields :=
    [.of "name" true readText fun p v => { p with name := v },
     .of "nullable" false readFlag fun p v => { p with nullable := v }]

/-- The form of a constructor in the metadata. -/
def constructorMetadataForm : Form ConstructorMetadata where
  name := "ConstructorMetadata"
  start := { visibility := .pub }
  fields :=
    [.of "visibility" true (readChoice visibilityWords) fun c v => { c with visibility := v },
     .of "parameters" false (readList parameterMetadataForm.read) fun c v =>
      { c with parameters := v }]

/-- The form of a type parameter. -/
def typeParameterForm : Form TypeParameter where
  name := "RawTypeParameter"
  start := { name := "" }
  fields :=
    [.of "name" true readText fun p v => { p with name := v },
     .of "variance" false (readChoice varianceWords) fun p v => { p with variance := v },
     .of "bounds" false (readList readType) fun p v => { p with bounds := v }]

/-- The form of the metadata of a class. -/
def metadataForm : Form Metadata where
  name := "ClassMetadata"
  start := { kind := .plain, visibility := .pub, modality := .final }
  fields :=
    [.of "kind" true (readChoice kindWords) fun m v => { m with kind := v },
     .of "visibility" true (readChoice visibilityWords) fun m v => { m with visibility := v },
     .of "modality" true (readChoice modalityWords) fun m v => { m with modality := v },
     .of "nesting" false (readChoice nestingWords) fun m v => { m with nesting := v },
     .of "type_parameters" false (readList typeParameterForm.read) fun m v =>
      { m with typeParameters := v },
     .of "constructors" false (readList constructorMetadataForm.read) fun m v =>
      { m with constructors := v }]

/-! ## Entries -/

/-- The form of a class. -/
def classForm : Form ClassEntry where
  name := "ClassEntry"
  start := { name := "", package := "" }
  fields :=
    [.of "name" true readText fun c v => { c with name := v },
     .of "package" true readText fun c v => { c with package := v },
     .of "directives" false classDirectivesForm.read fun c v => { c with generate := v },
     .of "constructors" false (readList constructorForm.read) fun c v =>
      { c with constructors := v },
     .of "metadata" false (readOption metadataForm.read) fun c v => { c with metadata := v }]

/-- The form of a further type. -/
def typeEntryForm : Form TypeEntry where
  name := "TypeEntry"
  start := { name := "" }
  fields :=
    [.of "name" true readText fun t v => { t with name := v },
     .of "path" false (readOption readText) fun t v => { t with path := v },
     .of "kind" false (readChoice kindWords) fun t v => { t with kind := v },
     .of "modality" false (readChoice modalityWords) fun t v => { t with modality := v },
     .of "generate" false (readOption generateForm.read) fun t v => { t with generate := v },
     .of "builder_module" false (readOption readText) fun t v => { t with builderModule := v }]

/-- The form of a whole descriptor. -/
def form : Form Descriptor where
  name := "DescriptorFile"
  start := { version := 0 }
  fields :=
    [.of "format_version" true readWord32 fun d v => { d with version := v },
     .of "generated_sources_root" false (readOption (readTextAs "path string")) fun d v =>
      { d with root := v },
     .of "classes" false (readList classForm.read) fun d v => { d with classes := v },
     .of "types" false (readList typeEntryForm.read) fun d v => { d with types := v }]

/-! ## Loading -/

/-- Why a file gives no descriptor. -/
inductive LoadError
  | unreadable (path : List Segment) (cause : Cause) (position : Position)
  | unsupportedVersion (found : Nat)
  deriving DecidableEq, Repr

/-- The reason behind an error, in words, where there is one. -/
def LoadError.reason? : LoadError → Option String
  | .unreadable _ cause position => some (cause.messageAt position)
  | .unsupportedVersion _ => none

/-- An error in words. -/
def LoadError.message : LoadError → String
  | .unreadable path cause position =>
    "invalid descriptor at " ++ ticked (pathText path) ++ ": " ++ cause.messageAt position
  | .unsupportedVersion found =>
    "unsupported descriptor format version " ++ toString found ++ " (supported: "
      ++ toString currentVersion ++ ")"

/-- Reads the descriptor that a text begins with, whatever its version. -/
def read (bytes : List UInt8) : Except Failure Descriptor :=
  form.read maxDepth (Tree.ofBytes bytes)

/-- Loads the descriptor that a file begins with. -/
def load (bytes : List UInt8) : Except LoadError Descriptor :=
  match read bytes with
  | .error f => .error (.unreadable f.path f.fault.cause (.after bytes f.fault.offset))
  | .ok d =>
    if d.version = currentVersion then .ok d else .error (.unsupportedVersion d.version)

/-- Loads the descriptor that a text begins with. -/
def loadText (s : String) : Except LoadError Descriptor := load (Text.Utf8.encode s.toList)

end FluentBuilders.Descriptor

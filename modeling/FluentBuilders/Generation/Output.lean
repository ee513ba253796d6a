/-
  Output — the files that a batch is written to.

  There is one file for each builder, in order, and an index file that ties them together.  A
  builder whose code would not read back stops the whole output, and so does a name that cannot be
  spelled; the first builder with such a flaw decides, and within one builder spelling comes first.
-/
import FluentBuilders.Batch.Report
import FluentBuilders.Builder.Emission
import FluentBuilders.Code.Acceptance
import FluentBuilders.Code.Layout
import FluentBuilders.Code.PathText
import FluentBuilders.Generation.Header

namespace FluentBuilders.Generation

open Code

/-! ## Requests -/

/-- What is to be generated: from which descriptor, named how, which classes of it, and with which
    support library. -/
structure Request where
  descriptor : Descriptor
  selection : Batch.Selection := {}
  support : Path
  source : String

/-- Why a support path is refused, in words. -/
def badSupportMessage (path : String) : String := "invalid support path `" ++ path ++ "`"

/-- The builders and statistics of a request. -/
def Request.batch (r : Request) : Batch.Result :=
  Batch.synthesize r.descriptor r.selection r.support.compact

/-- The summaries of a request. -/
def Request.summaries (r : Request) : List Batch.Summary :=
  Batch.summaries r.descriptor r.selection r.support.compact

/-! ## Failures -/

/-- Why nothing is written. -/
inductive Failure
  /-- Some name has no spelling. -/
  | unspellable
  /-- The code of a builder does not read back. -/
  | refused (builder : String) (refusal : Refusal)
  /-- The index does not read back. -/
  | indexRefused (refusal : Refusal)
  deriving DecidableEq, Repr

/-- The words of a failure, from the outermost cause to the innermost. -/
def Failure.causes : Failure → List String
  | .unspellable => []
  | .refused builder r => ["failed to emit `" ++ builder ++ "`", r.message]
  | .indexRefused r => [r.message]

/-! ## Files -/

/-- A generated file. -/
structure File where
  name : String
  text : String
  deriving DecidableEq, Repr

/-- The text of a module below its header, if it reads back. -/
def writeModule (h : Header) (m : Option Module) (refused : Refusal → Failure) :
    Except Failure String :=
  match m with
  | none => .error .unspellable
  | some m =>
    match m.refusal? with
    | some r => .error (refused r)
    | none => .ok (h.text ++ m.text)

/-- The header of a builder's file. -/
def builderHeader (source : String) (p : Plan) : Header :=
  { title := "Builder for `" ++ p.className ++ "`", source }

/-- The file of a builder. -/
def builderFile (support : Path) (source : String) (p : Plan) : Except Failure File := do
  let text ← writeModule (builderHeader source p) (p.module? support) (.refused p.builder)
  .ok { name := p.module ++ ".rs", text }

/-- The name of the index file. -/
def indexName : String := "mod.rs"

/-- The index file. -/
def indexFile (source : String) (plans : List Plan) : Except Failure File := do
  let text ← writeModule { title := "Generated builders", source } (indexModule? plans)
    .indexRefused
  .ok { name := indexName, text }

/-- The files for some builders. -/
def filesOf (support : Path) (source : String) (plans : List Plan) :
    Except Failure (List File) := do
  let files ← plans.mapM (builderFile support source)
  let index ← indexFile source plans
  .ok (files ++ [index])

/-- What is generated: the files and what is to be said about them. -/
structure Output where
  files : List File
  statistics : Batch.Statistics

/-- Generates everything that is requested. -/
def Request.generate (r : Request) : Except Failure Output := do
  let files ← filesOf r.support r.source r.batch.plans
  .ok { files, statistics := r.batch.statistics }

end FluentBuilders.Generation

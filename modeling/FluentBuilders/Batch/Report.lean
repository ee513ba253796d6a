/-
  Reports — what a batch comes to: its builders with counts and warnings, and a summary of each
  class.
-/
import FluentBuilders.Batch.Pass

namespace FluentBuilders.Batch

/-! ## Warnings -/

/-- Something that a user should know about a batch. -/
inductive Warning
  | rejected (className message : String)
  | missingBuilder (className builder : String)
  | noticed (className message : String)
  deriving DecidableEq, Repr

namespace Warning

/-- A warning in words. -/
def message : Warning → String
  | .rejected _ m => m
  | .missingBuilder c b => "'" ++ c ++ "' refers to builder '" ++ b ++ "', which was not generated"
  | .noticed _ m => m

/-- The class that a warning is about. -/
def className : Warning → String
  | .rejected c _ | .missingBuilder c _ | .noticed c _ => c

/-- Whether a warning says that a class was left out. -/
def isSkip : Warning → Bool
  | .rejected _ _ => true
  | _ => false

/-- The warning that a diagnostic gives. -/
def ofDiagnostic : Diagnostic → Warning
  | .rejected r => .rejected r.subject r.message
  | .noticed n => .noticed n.className n.message

end Warning

/-- Whether a text ends with another. -/
def endsWith (s ending : String) : Bool := ending.toList.isSuffixOf s.toList

/-- Whether a text begins with another. -/
def startsWith (s beginning : String) : Bool := beginning.toList.isPrefixOf s.toList

/-- The nested builders of a plan, by name. -/
def nestedBuilders (p : Plan) : List String :=
  p.functions.filterMap fun
    | .nested _ _ b _ => some b.name
    | _ => none

/-- Whether a plan imports a builder from a module beside its own. -/
def importsSibling (p : Plan) (builder : String) : Bool :=
  p.imports.any fun i => startsWith i "super::" && endsWith i builder

/-- A list without later copies of its elements. -/
def distinct {α : Type} [BEq α] (xs : List α) : List α :=
  xs.foldl (fun seen x => if seen.contains x then seen else seen ++ [x]) []

/-- The classes whose builders refer to a sibling that is not among them. -/
def missingBuilders (plans : List Plan) : List (String × String) :=
  distinct <| plans.flatMap fun p =>
    ((nestedBuilders p).filter fun b =>
      !(plans.map (·.builder)).contains b && importsSibling p b).map fun b => (p.className, b)

/-! ## Statistics -/

/-- What is counted over a batch. -/
structure Statistics where
  classes : Nat
  builders : Nat
  properties : Nat
  nested : Nat
  scopes : Nat
  inserts : Nat
  warnings : List Warning
  deriving DecidableEq, Repr

/-- How many classes were left out. -/
def Statistics.skipped (s : Statistics) : Nat := s.warnings.countP (·.isSkip)

/-- Whether a function runs a nested builder. -/
def isNested : PlannedFunction → Bool
  | .nested .. => true
  | _ => false

/-- Whether a function fills a collection scope. -/
def isScope : PlannedFunction → Bool
  | .scope .. => true
  | _ => false

/-- Whether a function adds an element. -/
def isInsert : PlannedFunction → Bool
  | .insert .. => true
  | _ => false

/-- How many functions of some plans satisfy a test. -/
def countFunctions (test : PlannedFunction → Bool) (plans : List Plan) : Nat :=
  (plans.flatMap (·.functions)).countP test

/-- The counts and warnings of a pass that planned these builders. -/
def Statistics.of (s : Pass) (plans : List Plan) : Statistics where
  classes := s.outcomes.length
  builders := plans.length
  properties := (plans.flatMap (·.properties)).length
  nested := countFunctions isNested plans
  scopes := countFunctions isScope plans
  inserts := countFunctions isInsert plans
  warnings := s.diagnostics.map Warning.ofDiagnostic
    ++ (missingBuilders plans).map fun (c, b) => Warning.missingBuilder c b

/-! ## The batch -/

/-- What a batch comes to. -/
structure Result where
  plans : List Plan
  statistics : Statistics

/-- The plans among the outcomes of a pass. -/
def Pass.plans (s : Pass) : List Plan := s.outcomes.filterMap (·.toOption)

/-- The last pass over the wanted classes of a descriptor. -/
def finalPass (d : Descriptor) (s : Selection) (support : String) : Pass :=
  settle (s.apply d) (s.apply d) support

/-- Plans the builders of the wanted classes of a descriptor. -/
def synthesize (d : Descriptor) (s : Selection) (support : String) : Result :=
  let pass := finalPass d s support
  { plans := pass.plans, statistics := .of pass pass.plans }

/-- A class at a glance. -/
structure Summary where
  className : String
  package : String
  builder : String
  entry : String
  /-- The number of properties of its builder, or why it has none. -/
  outcome : Except Rejection Nat

/-- The summary of each wanted class, in order. -/
def summaries (d : Descriptor) (s : Selection) (support : String) : List Summary :=
  ((s.apply d).targets.zip (finalPass d s support).outcomes).map fun (e, o) =>
    { className := e.name, package := e.package, builder := Name.builder e.name
      entry := Name.entry (e.generate.bind (·.displayName)) e.name
      outcome := o.map (·.properties.length) }

end FluentBuilders.Batch

/-
  The command `generate` — writing the builders of a descriptor.

  Everything that can go wrong is found out before the first file is written.  Classes that are
  rejected are reported, also if hardly anything else is said, and the run fails at its end, but
  the builders of the other classes are written.
-/
import FluentBuilders.Command.Arguments
import FluentBuilders.Command.Input
import FluentBuilders.Generation.Output

namespace FluentBuilders.Command

open Terminal

/-! ## Settings -/

/-- How much is said. -/
inductive Volume
  | quiet
  | normal
  | verbose
  deriving DecidableEq, Repr

/-- What the command `generate` goes by. -/
structure Settings where
  input : String
  output : Option String
  selection : Batch.Selection
  supportPath : String
  volume : Volume
  deriving DecidableEq, Repr

/-- A list in ascending order, each element once. -/
def ascending (xs : List String) : List String :=
  (Batch.distinct xs).mergeSort fun a b => !decide (b < a)

/-- The complaint about being told to say more and less. -/
def volumeComplaint : Complaint := { message := "--verbose and --quiet cannot be combined" }

/-- The settings that the arguments make up. -/
def Settings.ofArguments (a : GenerateArguments) : Except Complaint Settings :=
  if a.verbose && a.quiet then .error volumeComplaint
  else .ok
    { input := a.input, output := a.output
      selection := { only := a.only.map ascending, exclude := a.exclude.map ascending }
      supportPath := a.supportPath
      volume := if a.verbose then .verbose else if a.quiet then .quiet else .normal }

/-- The directory that files are written to: the one asked for, or the one that the descriptor
    names. -/
def Settings.directory? (s : Settings) (d : Descriptor) : Option String :=
  s.output.filter (· ≠ "") <|> d.outputRoot

/-! ## What is said -/

/-- How lines are written. -/
structure Voice where
  palette : Palette
  /-- Whether colours are forbidden. -/
  colorless : Bool := false
  volume : Volume
  deriving DecidableEq, Repr

namespace Voice

/-- A text in a colour. -/
def styled (v : Voice) (c : Color) (s : String) : String := Terminal.styled v.colorless c s

/-- Whether anything but errors is said. -/
def speaks (v : Voice) : Bool := v.volume != .quiet

/-- Steps that are left out if little is to be said. -/
def unlessQuiet (v : Voice) (steps : List Step) : List Step := if v.speaks then steps else []

/-- A message with the time of day. -/
def message (v : Voice) (c : Color) (s : String) : List Step :=
  v.unlessQuiet [.log v.palette.timestamp (v.styled c s)]

/-- A labelled value below a message. -/
def fact (v : Voice) (label value : String) : List Step :=
  v.unlessQuiet
    [.say ("            " ++ v.styled v.palette.label label ++ " "
      ++ v.styled v.palette.value value)]

/-- The counts of a batch. -/
def counts (v : Voice) (s : Batch.Statistics) : List Step :=
  v.fact "Classes found:" (toString s.classes)
    ++ v.fact "Builders generated:" (toString s.builders)
    ++ v.fact "" (toString s.properties ++ " properties")
    ++ (if v.volume = .verbose then
          v.fact "" (toString s.nested ++ " nested builder functions")
            ++ v.fact "" (toString s.scopes ++ " collection scopes")
            ++ v.fact "" (toString s.inserts ++ " inline insertions")
        else [])
    ++ (if s.skipped > 0 then v.fact "Skipped:" (toString s.skipped) else [])
    ++ (if s.warnings.isEmpty then []
        else v.fact "Warnings:" (toString s.warnings.length))

/-- Whether a warning is reported: always if a class was left out, else if much is said. -/
def reports (v : Voice) (w : Batch.Warning) : Bool := w.isSkip || v.volume == .verbose

/-- The line of a warning. -/
def warning (v : Voice) (w : Batch.Warning) : Step :=
  .warn (v.styled v.palette.accent (if w.isSkip then "Skipped:" else "Warning:") ++ " "
    ++ v.styled v.palette.primary w.message)

/-- The warnings of a batch, behind an empty line if there are any. -/
def warnings (v : Voice) (s : Batch.Statistics) : List Step :=
  let reported := s.warnings.filter v.reports
  (if reported.isEmpty then [] else v.unlessQuiet [.say ""]) ++ reported.map v.warning

/-- Where files are written, with their names if much is said. -/
def writing (v : Voice) (directory : String) (files : List Generation.File) : List Step :=
  v.message v.palette.primary ("Writing to: " ++ directory)
    ++ if v.volume = .verbose then files.flatMap fun f => v.fact "" f.name else []

/-- The end of a run that did everything. -/
def success (v : Voice) : List Step :=
  v.unlessQuiet [.say ""] ++ v.message v.palette.success "Successfully generated builders"

end Voice

/-! ## The run -/

/-- The end of a run that fails to generate. -/
def endingOf (f : Generation.Failure) : Ending :=
  match f.causes with
  | message :: causes => .failure { message, causes }
  | [] => .crash

/-- The complaint about a support path that is none. -/
def supportComplaint (path : String) (r : Code.Refusal) : Complaint where
  message := Generation.badSupportMessage path
  causes := [r.message]

/-- The complaint about a missing directory. -/
def directoryComplaint : Complaint :=
  { message := "Can't find the target directory for generated files." }

/-- What a descriptor gives under some settings: where the files go and what they are, or how the
    run ends without them. -/
def Settings.produce (s : Settings) (d : Descriptor) :
    Except Ending (String × Generation.Output) :=
  match Code.Path.ofText s.supportPath with
  | .error r => .error (.failure (supportComplaint s.supportPath r))
  | .ok support =>
    match s.directory? d with
    | none => .error (.failure directoryComplaint)
    | some directory =>
      let request : Generation.Request :=
        { descriptor := d, selection := s.selection, support, source := s.input }
      match request.generate with
      | .error f => .error (endingOf f)
      | .ok output => .ok (directory, output)

/-- The steps that write files. -/
def writeSteps (directory : String) (files : List Generation.File) : List Step :=
  .makeDirectory directory :: files.map fun f => .writeFile directory f.name f.text

/-- The complaint about rejected classes. -/
def skippedComplaint (n : Nat) : Complaint :=
  { message := toString n ++ " class(es) could not be processed" }

/-- The steps after everything was generated. -/
def finish (v : Voice) (directory : String) (o : Generation.Output) : Run :=
  let steps := v.counts o.statistics ++ v.warnings o.statistics ++ v.writing directory o.files
    ++ writeSteps directory o.files
  let skipped := o.statistics.skipped
  if skipped > 0 then { steps, ending := .failure (skippedComplaint skipped) }
  else { steps := steps ++ v.success }

/-- Generates the builders of a descriptor file. -/
def runSettings (s : Settings) (v : Voice) (contents : Contents) : Run :=
  let loading := v.message v.palette.primary ("Loading descriptor from: " ++ s.input)
  match loadFile s.input contents with
  | .error c => { steps := loading, ending := .failure c }
  | .ok d =>
    let steps := loading ++ v.message v.palette.primary "Generating builders..."
    match s.produce d with
    | .error ending => { steps, ending }
    | .ok (directory, o) =>
      let r := finish v directory o
      { r with steps := steps ++ r.steps }

/-- Carries out the command `generate`. -/
def runGenerate (a : GenerateArguments) (palette : Palette) (colorless : Bool)
    (contents : String → Contents) : Run :=
  match Settings.ofArguments a with
  | .error c => .complain c
  | .ok s => runSettings s { palette, colorless, volume := s.volume } (contents s.input)

end FluentBuilders.Command

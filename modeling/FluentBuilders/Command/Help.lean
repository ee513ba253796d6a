/-
  Help — what is written if a command line asks for help or is not understood.
-/
import FluentBuilders.Command.Arguments
import FluentBuilders.Generation.Header

namespace FluentBuilders.Command

/-- The name of the program. -/
def programName : String := "autodsl-gen"

/-- What is written about the version. -/
def versionText : String := programName ++ " " ++ Generation.version

/-- What an option is good for. -/
def Opt.purpose : Opt → String
  | .color => "whether colours are used: always, auto or never"
  | .theme => "what is behind the text: dark, light or auto"
  | .input => "the descriptor"
  | .output => "the directory for generated files"
  | .only => "the only classes that are wanted, with commas between them"
  | .exclude => "classes that are not wanted, with commas between them"
  | .supportPath => "the path of the support library in generated code"
  | .verbose => "says more"
  | .quiet => "says nothing but errors"
  | .help => "says this"
  | .version => "says the version"

/-- The line about an option. -/
def Opt.helpLine (o : Opt) : String :=
  let letter := match o.letter? with
    | some c => "-" ++ String.singleton c ++ ", "
    | none => "    "
  "  " ++ letter ++ "--" ++ o.long ++ ": " ++ o.purpose

/-- The options of a level, one a line. -/
def Level.helpText (l : Level) : String :=
  String.intercalate "\n" (l.options.map (·.helpLine))

/-- What is written if help is asked for. -/
def helpText : String :=
  "Usage: " ++ programName ++ " [OPTIONS] <COMMAND>\n\n"
    ++ "Options:\n" ++ Level.top.helpText ++ "\n\n"
    ++ "list: lists the classes that a descriptor marks\n" ++ Level.list.helpText ++ "\n\n"
    ++ "generate: writes the builders of a descriptor\n" ++ Level.generate.helpText

/-- Why a command line is not carried out, in words. -/
def UsageError.message : UsageError → String
  | .argumentConflict => "an option is given more than once"
  | .invalidValue => "an option has no value, or one that is not possible"
  | .unknownArgument => "an argument is not known"
  | .tooManyValues => "a flag has a value"
  | .missingArgument => "the descriptor is not given"
  | .invalidCommand => "the command is not known"
  | .missingCommand => "the command is not given"
  | .help | .helpInstead => helpText
  | .version => versionText

/-- Whether a command line that is not carried out was still understood. -/
def UsageError.isAnswer : UsageError → Bool
  | .help | .version => true
  | _ => false

end FluentBuilders.Command

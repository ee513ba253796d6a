/-
  Options — what each command can be told, and how.

  Two options are known before and after the name of a command; the others belong to one command.
  An option is a flag, takes one value, or takes lists of values that are joined.
-/

namespace FluentBuilders.Command

/-- Where on the command line an option stands: in front of the command, or behind its name. -/
inductive Level
  | top
  | list
  | generate
  deriving DecidableEq, Repr

/-- An option. -/
inductive Opt
  | color
  | theme
  | input
  | output
  | only
  | exclude
  | supportPath
  | verbose
  | quiet
  | help
  | version
  deriving DecidableEq, Repr

/-- What follows an option. -/
inductive Arity
  | flag
  | value
  | values
  deriving DecidableEq, Repr

namespace Opt

/-- What follows an option. -/
def arity : Opt → Arity
  | .verbose | .quiet | .help | .version => .flag
  | .only | .exclude => .values
  | .color | .theme | .input | .output | .supportPath => .value

/-- The long name of an option. -/
def long : Opt → String
  | .color => "color"
  | .theme => "theme"
  | .input => "input"
  | .output => "output"
  | .only => "only"
  | .exclude => "exclude"
  | .supportPath => "support-path"
  | .verbose => "verbose"
  | .quiet => "quiet"
  | .help => "help"
  | .version => "version"

/-- The letter of an option. -/
def letter? : Opt → Option Char
  | .input => some 'i'
  | .output => some 'o'
  | .verbose => some 'v'
  | .quiet => some 'q'
  | .help => some 'h'
  | .version => some 'V'
  | .color | .theme | .only | .exclude | .supportPath => none

end Opt

namespace Level

/-- The options that are known at a level. -/
def options : Level → List Opt
  | .top => [.color, .theme, .help, .version]
  | .list => [.input, .color, .theme, .help]
  | .generate =>
    [.input, .output, .only, .exclude, .supportPath, .verbose, .quiet, .color, .theme, .help]

/-- The option with a long name. -/
def long? (l : Level) (name : String) : Option Opt := l.options.find? (·.long == name)

/-- The option with a letter. -/
def short? (l : Level) (c : Char) : Option Opt := l.options.find? (·.letter? == some c)

/-- The commands with their names. -/
def commands : List (String × Level) := [("list", .list), ("generate", .generate)]

end Level

/-- The word that asks for help in the place of a command. -/
def helpWord : String := "help"

end FluentBuilders.Command

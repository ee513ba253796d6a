/-
  Invocations — carrying out a command line in its surroundings.
-/
import FluentBuilders.Command.Generate
import FluentBuilders.Command.Help
import FluentBuilders.Command.List

namespace FluentBuilders.Command

open Terminal

/-- What a command line finds around it. -/
structure Surroundings where
  /-- Whether the output is a terminal. -/
  terminal : Bool := false
  /-- How the terminal describes its colours. -/
  colors : Option String := none
  /-- What forbids colours, if it is not empty. -/
  noColor : Option String := none
  deriving DecidableEq, Repr

namespace Surroundings

/-- Whether colours are forbidden. -/
def forbidsColor (s : Surroundings) : Bool := (s.noColor.getD "") != ""

/-- The palette that a command line asks for. -/
def palette (s : Surroundings) (color : ColorMode) (theme : ThemeMode) : Palette where
  enabled := color.isEnabled s.terminal
  theme := theme.resolve s.colors

end Surroundings

/-- What a command line does, given what files contain. -/
def Invocation.run (i : Invocation) (s : Surroundings) (contents : String → Contents) : Run :=
  match i.action with
  | .list input => runList input (contents input)
  | .generate a => runGenerate a (s.palette i.color i.theme) s.forbidsColor contents

end FluentBuilders.Command

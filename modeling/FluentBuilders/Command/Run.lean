/-
  Runs — what carrying out a command does, as a list of steps and an end.

  Nothing here touches a file or a terminal: a run says which lines are written where, which
  directory is made and which files are put into it.  Lines with the time of day leave the time to
  whoever carries the run out.
-/
import FluentBuilders.Terminal.Palette

namespace FluentBuilders.Command

open Terminal

/-- A step of a run. -/
inductive Step
  /-- Writes a line to the output. -/
  | say (line : String)
  /-- Writes a line to the output, with the time of day in a colour in front of it. -/
  | log (time : Color) (line : String)
  /-- Writes a line to the error output. -/
  | warn (line : String)
  | makeDirectory (path : String)
  | writeFile (directory name text : String)
  deriving DecidableEq, Repr

/-- Why a run fails: what went wrong, and its causes from the outermost to the innermost. -/
structure Complaint where
  message : String
  causes : List String := []
  deriving DecidableEq, Repr

/-- How a run ends. -/
inductive Ending
  | success
  | failure (c : Complaint)
  /-- It breaks off, because a name has no spelling. -/
  | crash
  deriving DecidableEq, Repr

/-- A run: its steps, and how it ends after them. -/
structure Run where
  steps : List Step
  ending : Ending := .success
  deriving DecidableEq, Repr

/-- The run that only complains. -/
def Run.complain (c : Complaint) : Run := { steps := [], ending := .failure c }

namespace Complaint

/-- A cause behind a label; its further lines are indented. -/
def indented (label indent : List Char) (cause : String) : List Char :=
  label ++ cause.toList.flatMap fun c => if c = '\n' then '\n' :: indent else [c]

/-- The label of a numbered cause. -/
def numberLabel (n : Nat) : List Char :=
  let digits := Nat.toDigits 10 n
  List.replicate (5 - digits.length) ' ' ++ digits ++ [':', ' ']

/-- The causes, each on lines of its own.  One cause alone has no number. -/
def causeLines : List String → List (List Char)
  | [cause] => [indented (List.replicate 4 ' ') (List.replicate 4 ' ') cause]
  | causes =>
    (causes.zipIdx).map fun (cause, n) => indented (numberLabel n) (List.replicate 7 ' ') cause

/-- A complaint in words. -/
def text (c : Complaint) : String :=
  if c.causes.isEmpty then "Error: " ++ c.message
  else "Error: " ++ c.message ++ "\n\nCaused by:\n"
    ++ String.intercalate "\n" ((causeLines c.causes).map String.ofList)

end Complaint

/-- The exit status of a run. -/
def Ending.status : Ending → UInt32
  | .success => 0
  | .failure _ => 1
  | .crash => 101

/-- The exit status of a command line that is not understood. -/
def usageStatus : UInt32 := 2

end FluentBuilders.Command

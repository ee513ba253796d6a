/-
  The program — carries out runs.

  Everything that is decided is decided elsewhere; here files are read and written, lines are
  printed and the clock is looked at.
-/
import FluentBuilders.Command.Invocation
import Std.Time.Zoned

namespace FluentBuilders.Command

/-- What the system says of something that went wrong. -/
def systemMessage : IO.Error → String
  | .noFileOrDirectory .. => noSuchFile
  | .alreadyExists .. => fileExists
  | .permissionDenied .. => "Permission denied (os error 13)"
  | .inappropriateType _ 20 _ => notDirectory
  | .inappropriateType _ 21 _ => isDirectory
  | .invalidArgument _ 36 _ => nameTooLong
  | e => e.toString

/-- A number in two digits. -/
def twoDigits (n : Nat) : String :=
  if n < 10 then "0" ++ toString n else toString n

/-- The time of day between brackets. -/
def timeOfDay : IO String := do
  let now ← Std.Time.PlainDateTime.now
  let part (i : Int) : String := twoDigits i.toNat
  return "[" ++ part now.hour.val ++ ":" ++ part now.minute.val ++ ":" ++ part now.second.val ++ "]"

/-- Takes a step. -/
def Step.perform (colorless : Bool) : Step → IO Unit
  | .say line => IO.println line
  | .log color line => do
    IO.println (Terminal.styled colorless color (← timeOfDay) ++ " " ++ line)
  | .warn line => IO.eprintln line
  | .makeDirectory path => IO.FS.createDirAll path
  | .writeFile directory name text => IO.FS.writeFile (directory ++ "/" ++ name) text

/-- Takes the steps of a run up to the first that goes wrong, and says how the run ends. -/
def Run.perform (colorless : Bool) (r : Run) : IO Ending := do
  try
    r.steps.forM (Step.perform colorless)
    return r.ending
  catch e =>
    return .failure { message := systemMessage e }

/-- The contents of a file. -/
def openFile (path : String) : IO Contents := do
  try
    let bytes ← IO.FS.readBinFile path
    return .ok bytes.toList
  catch
    | .inappropriateType _ 21 _ => return .error (.unmapped noSuchDevice)
    | e => return .error (.unopened (systemMessage e))

/-- The surroundings of the program. -/
def surroundings : IO Surroundings := do
  return {
    terminal := ← (← IO.getStdout).isTty
    colors := ← IO.getEnv "COLORFGBG"
    noColor := ← IO.getEnv "NO_COLOR" }

/-- The file that a command reads. -/
def Action.input : Action → String
  | .list input => input
  | .generate a => a.input

/-- Carries out a command line and gives the exit status. -/
def carryOut (i : Invocation) : IO UInt32 := do
  let around ← surroundings
  let contents ← openFile i.action.input
  let ending ← (i.run around fun _ => contents).perform around.forbidsColor
  match ending with
  | .failure c => IO.eprintln c.text
  | .success | .crash => pure ()
  return ending.status

end FluentBuilders.Command

open FluentBuilders.Command

/-- Reads the command line and carries it out. -/
def main (words : List String) : IO UInt32 := do
  match Invocation.ofWords words with
  | .ok i => carryOut i
  | .error e =>
    if e.isAnswer then
      IO.println e.message
      return 0
    else
      IO.eprintln e.message
      return usageStatus

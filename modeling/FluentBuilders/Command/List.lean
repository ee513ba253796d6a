/-
  The command `list` — a table of the classes that a descriptor marks.
-/
import FluentBuilders.Batch.Report
import FluentBuilders.Command.Arguments
import FluentBuilders.Command.Input
import FluentBuilders.Terminal.Table

namespace FluentBuilders.Command

open Terminal

/-- What has become of a class, in words. -/
def statusOf : Except Rejection Nat → String
  | .ok n => toString n ++ " properties"
  | .error r => r.message

/-- The row of a class. -/
def rowOf (s : Batch.Summary) : List Cell :=
  [{ text := s.package ++ "::" ++ s.className }, { text := s.builder },
   { text := s.entry, alignment := .right }, { text := statusOf s.outcome }]

/-- Whether a class stands before another, or has its name. -/
def precedes (a b : Batch.Summary) : Bool := !decide (b.className < a.className)

/-- The table of some classes, by name. -/
def tableOf (rows : List Batch.Summary) : Table where
  header := ["CLASS", "BUILDER", "ENTRY", "STATUS"].map fun s => { text := s }
  rows := (rows.mergeSort precedes).map rowOf

/-- Lists the classes of a descriptor. -/
def runList (input : String) (contents : Contents) : Run :=
  match loadFile input contents with
  | .error c => .complain c
  | .ok d => { steps := [.say (tableOf (Batch.summaries d {} defaultSupport)).text] }

end FluentBuilders.Command

/-
  Wrapping — a line of text broken into lines that fit a column.

  A line is broken at its blanks.  A word stays whole unless the column is too narrow for it; a line
  with hardly any room left takes no part of a word.
-/
import FluentBuilders.Text.Cluster
import FluentBuilders.Text.Column

namespace FluentBuilders.Terminal

open Text

/-- The clusters at the front of a word that fit into some columns, and the others. -/
def splitAtColumns : Nat → List String → List String × List String
  | _, [] => ([], [])
  | room, c :: cs =>
    if columns c ≤ room then
      let (a, b) := splitAtColumns (room - columns c) cs
      (c :: a, b)
    else ([], c :: cs)

theorem splitAtColumns_length_le (room : Nat) (cs : List String) :
    (splitAtColumns room cs).2.length ≤ cs.length := by
  induction cs generalizing room with
  | nil => simp [splitAtColumns]
  | cons c cs ih =>
    rw [splitAtColumns]
    split
    · exact Nat.le_succ_of_le (ih _)
    · exact Nat.le_refl _

/-- Lines being filled: the complete ones, last first, and the one in hand. -/
structure Filling where
  complete : List String := []
  line : String := ""
  deriving DecidableEq, Repr

namespace Filling

/-- The columns at the end of a line that are not worth beginning a word in. -/
def spare : Nat := 2

/-- Ends the line in hand. -/
def push (f : Filling) (line : String) : Filling := { complete := line :: f.complete }

/-- Goes on with a line, or ends it where only spare columns are left. -/
def keep (width : Nat) (f : Filling) (line : String) : Filling :=
  if columns line > width - spare then f.push line else { f with line := line }

/-- Puts a word on a fresh line, and on further ones where it is too long. -/
def pour (width : Nat) (f : Filling) : List String → Filling
  | [] => f
  | c :: cs =>
    if columns (String.join (c :: cs)) ≤ width then f.keep width (String.join (c :: cs))
    else
      let cut := splitAtColumns (width - columns c) cs
      (f.push (String.join (c :: cut.1))).pour width cut.2
termination_by cs => cs.length
decreasing_by exact Nat.lt_succ_of_le (splitAtColumns_length_le _ _)

/-- Puts the next word where it belongs. -/
def place (width : Nat) (f : Filling) (word : String) : Filling :=
  let room := width - columns f.line - 1
  if f.line.isEmpty then f.pour width (clusters word)
  else if columns f.line + 1 + columns word ≤ width then f.keep width (f.line ++ " " ++ word)
  else if columns word ≤ width || room ≤ spare then (f.push f.line).pour width (clusters word)
  else
    let (a, b) := splitAtColumns room (clusters word)
    (f.push (f.line ++ " " ++ String.join a)).pour width b

/-- All lines, in order. -/
def lines (f : Filling) : List String :=
  (if f.line.isEmpty then f.complete else f.line :: f.complete).reverse

end Filling

/-- The lines that a line takes in a column of some width. -/
def wrap (width : Nat) (line : String) : List String :=
  if columns line ≤ width then [line]
  else ((line.splitOn " ").foldl (fun f w => f.place width w) ({} : Filling)).lines

end FluentBuilders.Terminal

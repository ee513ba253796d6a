/-
  Tables — rows of cells in columns, between rules.

  A column is as wide as its widest line and has a blank on either side.  The rule below the
  header goes through, the other two have a gap between columns.  A table has a width that it does
  not exceed: columns that want no more than an equal share of it get what they want, and the others
  share the rest, where long lines are wrapped.
-/
import FluentBuilders.Terminal.Wrap

namespace FluentBuilders.Terminal

open Text

/-! ## Cells -/

/-- Where a cell stands in its column. -/
inductive Alignment
  | left
  | right
  deriving DecidableEq, Repr

/-- A cell. -/
structure Cell where
  text : String
  alignment : Alignment := .left
  deriving DecidableEq, Repr

namespace Cell

/-- The lines of a cell before any wrapping. -/
def lines (c : Cell) : List String := c.text.splitOn "\n"

/-- The columns of the widest of some lines. -/
def widest (lines : List String) : Nat := (lines.map columns).foldl max 0

/-- The lines of a cell in a column of some width. -/
def wrapped (width : Nat) (c : Cell) : List String := c.lines.flatMap (wrap width)

end Cell

/-- A character several times. -/
def repeated (c : Char) (n : Nat) : String := String.ofList (List.replicate n c)

/-- A line in a column of some width, with its blanks. -/
def padded (width : Nat) (alignment : Alignment) (line : String) : String :=
  let padding := repeated ' ' (width - columns line)
  match alignment with
  | .left => " " ++ line ++ padding ++ " "
  | .right => " " ++ padding ++ line ++ " "

/-! ## Widths -/

/-- A column while the width of the table is shared out: its cells, and its width once that is
settled. -/
structure Share where
  cells : List Cell
  width : Option Nat := none
  deriving DecidableEq, Repr

namespace Share

/-- The width at which no line of the column is wrapped. -/
def wish (s : Share) : Nat := max 1 (Cell.widest (s.cells.flatMap Cell.lines))

/-- The columns that the lines take when they are wrapped at some width. -/
def need (width : Nat) (s : Share) : Nat :=
  Cell.widest (s.cells.flatMap (Cell.wrapped width))

/-- What the columns without a width have left between them. -/
def left (room : Nat) (ss : List Share) : Nat :=
  ss.foldl (fun n s => n - s.width.getD 0) room

/-- The number of columns without a width. -/
def waiting (ss : List Share) : Nat := (ss.filter (·.width.isNone)).length

/-- Offers each column without a width, from the left, an equal part of what is left, and settles
those that make do with less.  `makesDo` says with how much, for an offer. -/
def offer (room : Nat) (makesDo : Nat → Share → Option Nat) :
    (settled waiting : List Share) → List Share
  | settled, [] => settled
  | settled, s :: ss =>
    let all := settled ++ s :: ss
    if s.width.isSome then offer room makesDo (settled ++ [s]) ss
    else offer room makesDo
      (settled ++ [{ s with width := makesDo (left room all / waiting all) s }]) ss

/-- Offers until nothing changes, which is after one round for each column at the latest. -/
def offerAll (room : Nat) (makesDo : Nat → Share → Option Nat) (ss : List Share) : List Share :=
  ss.foldl (fun now _ => offer room makesDo [] now) ss

/-- A column makes do with an offer in which nothing needs to be wrapped. -/
def unwrapped (offered : Nat) (s : Share) : Option Nat :=
  if s.wish ≤ offered then some s.wish else none

/-- A column makes do with an offer of which wrapping leaves a good deal. -/
def slack (offered : Nat) (s : Share) : Option Nat :=
  if 3 ≤ offered - s.need offered then some (max 1 (s.need offered)) else none

/-- Shares what is left equally among the columns without a width; those further to the left get
what does not divide. -/
def divide (part extra : Nat) : List Share → List Nat
  | [] => []
  | s :: ss =>
    match s.width with
    | some w => w :: divide part extra ss
    | none => max 1 (part + min 1 extra) :: divide part (extra - 1) ss

/-- The widths of columns that have some room between them. -/
def widths (room : Nat) (ss : List Share) : List Nat :=
  let settled := offerAll room slack (offerAll room unwrapped ss)
  let n := waiting settled
  let rest := max n (left room settled)
  divide (rest / n) (rest % n) settled

end Share

/-! ## Tables -/

/-- A table.  Every row has as many cells as the header. -/
structure Table where
  header : List Cell
  rows : List (List Cell)
  /-- The columns of the terminal that the table may take. -/
  width : Nat := 80
  deriving DecidableEq, Repr

namespace Table

/-- The columns of the table. -/
def shares (t : Table) : List Share :=
  t.rows.foldl (fun ss row => ss.zipWith (fun s c => { s with cells := s.cells ++ [c] }) row)
    (t.header.map fun c => { cells := [c] })

/-- The width of each column, without the blanks. -/
def widths (t : Table) : List Nat := Share.widths (t.width + 1 - 3 * t.header.length) t.shares

/-- The lines of a row.  A cell with fewer lines than the highest has blank ones below. -/
def rowLines (widths : List Nat) (row : List Cell) : List String :=
  let cells := widths.zipWith (fun w c => (w, c.alignment, c.wrapped w)) row
  let height := (cells.map fun c => c.2.2.length).foldl max 0
  (List.range height).map fun i =>
    String.intercalate " " (cells.map fun (w, a, lines) => padded w a (lines.getD i ""))

/-- A rule in pieces, one for each column. -/
def brokenRule (widths : List Nat) : String :=
  String.intercalate " " (widths.map fun w => repeated '─' (w + 2))

/-- A rule from the first column to the last. -/
def wholeRule (widths : List Nat) : String :=
  repeated '─' (widths.foldr (fun w n => w + 3 + n) 0 - 1)

/-- The lines of a table. -/
def lines (t : Table) : List String :=
  let ws := t.widths
  [brokenRule ws] ++ rowLines ws t.header ++ [wholeRule ws] ++ t.rows.flatMap (rowLines ws)
    ++ [brokenRule ws]

/-- The text of a table. -/
def text (t : Table) : String := String.intercalate "\n" t.lines

end Table

end FluentBuilders.Terminal

import MonitorFleet.Text.Columns
import MonitorFleet.Text.Split

/-!
# Tables

A table of texts with a frame around every cell. All cells of a column are as wide as its widest
line, and all cells of a row as high as its highest cell.
-/

namespace MonitorFleet.CommandLine.Table

/-- The lines of a cell. -/
def linesOf (cell : String) : List String :=
  (Text.splitOn '\n' cell.toList).map String.ofList

/-- The columns that a cell fills. -/
def width (cell : String) : Nat := ((linesOf cell).map Text.columns).foldl max 0

/-- The widths of the columns of a table with so many columns. -/
def widths (columns : Nat) (rows : List (List String)) : List Nat :=
  (List.range columns).map fun i =>
    (rows.map fun row => width (row.getD i "")).foldl max 0

/-- A rule across the table, from the marks at its left end, its crossings and its right end. -/
def rule (left cross right : String) (widths : List Nat) : String :=
  left ++ cross.intercalate (widths.map fun w => String.ofList (List.replicate (w + 2) '─')) ++ right

/-- A line of a cell, filled up to a width. -/
def pad (width : Nat) (line : String) : String :=
  " " ++ line ++ String.ofList (List.replicate (width - Text.columns line) ' ') ++ " "

/-- The lines of a row. -/
def rowLines (widths : List Nat) (row : List String) : List String :=
  let cells := row.map linesOf
  (List.range ((cells.map List.length).foldl max 0)).map fun i =>
    "│" ++ "│".intercalate ((widths.zip cells).map fun c => pad c.1 (c.2.getD i "")) ++ "│"

/-- The lines of a table, from its header and its rows. -/
def lines (header : List String) (rows : List (List String)) : List String :=
  let ws := widths header.length (header :: rows)
  rule "┌" "┬" "┐" ws :: rowLines ws header ++
    rows.flatMap (fun row => rule "├" "┼" "┤" ws :: rowLines ws row) ++ [rule "└" "┴" "┘" ws]

end MonitorFleet.CommandLine.Table

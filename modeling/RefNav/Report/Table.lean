import RefNav.Text.Blank

/-! # Tables

Columns are aligned on the left, two blanks apart, under a dashed rule.  Cells
beyond the headers are ignored, a row may have fewer cells than there are
headers, and no line but the rule ends in a blank.
-/

namespace RefNav.Table

open RefNav.Text

/-- Fill a cell with blanks up to a width. -/
def pad (width : Nat) (cell : List Char) : List Char :=
  cell ++ List.replicate (width - cell.length) ' '

/-- The length of the cell of a row in a column; zero if the row ends before it. -/
def cellLength (column : Nat) (row : List (List Char)) : Nat :=
  (row[column]?.getD []).length

/-- The width of a column: that of its longest cell, the header included. -/
def columnWidth (rows : List (List (List Char))) (header : List Char × Nat) : Nat :=
  (rows.map (cellLength header.2)).foldl max header.1.length

/-- The widths of all columns. -/
def widths (headers : List (List Char)) (rows : List (List (List Char))) : List Nat :=
  headers.zipIdx.map (columnWidth rows)

/-- The gap between columns. -/
def gap : List Char := [' ', ' ']

/-- A line of cells without blanks at its end. -/
def line (ws : List Nat) (cells : List (List Char)) : List Char :=
  trimEnd (gap.intercalate (List.zipWith pad ws cells))

/-- The rule under the headers. -/
def rule (ws : List Nat) : List Char :=
  gap.intercalate (ws.map fun w => List.replicate w '-')

/-- The lines of a table. -/
def lines (headers : List (List Char)) (rows : List (List (List Char))) : List (List Char) :=
  let kept := rows.map (·.take headers.length)
  let ws := widths headers kept
  line ws headers :: rule ws :: kept.map (line ws)

/-- The text of a table. -/
def render (headers : List String) (rows : List (List String)) : String :=
  if rows.isEmpty then "(none)"
  else
    "\n".intercalate
      ((lines (headers.map String.toList) (rows.map (·.map String.toList))).map String.ofList)

end RefNav.Table

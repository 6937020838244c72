import ClusterConsole.Table.Row
import ClusterConsole.Text.Blank

/-! # The table as plain text

Each column is as wide as its widest cell, counted in characters. Cells are filled up with spaces and
joined by two; what a line ends in beyond its last visible character is cut off. No column may be wider
than 65535 characters. -/

namespace ClusterConsole.Plain

/-- The greatest width that a column may have. -/
def greatestWidth : Nat := 65535

/-- A row of cells, in the order of the columns. -/
abbrev Cells := List String

/-- The width that a column needs for a row. -/
def widen (widths : List Nat) (cells : Cells) : List Nat :=
  List.zipWith (fun width cell => max width cell.length) widths cells

/-- The widths of the columns. -/
def widths (lines : List Cells) : List Nat :=
  lines.foldl widen (columns.map String.length)

/-- A cell filled up with spaces. -/
def pad (width : Nat) (cell : String) : List Char :=
  cell.toList ++ List.replicate (width - cell.length) ' '

/-- The padded cells of a row, joined. -/
def joined (widths : List Nat) (cells : Cells) : List Char :=
  [' ', ' '].intercalate (List.zipWith pad widths cells)

/-- A row as a line. -/
def line (widths : List Nat) (cells : Cells) : List Char :=
  Blank.trimEnd (joined widths cells) ++ ['\n']

/-- The rows of the table, the headings first. -/
def lines (zone : DisplayZone) (nodes : List NodeRecord) : List Cells :=
  columns :: (rows zone nodes).map NodeRow.cells

/-- The table of nodes, in their order; none when a column is too wide. -/
def table? (zone : DisplayZone) (nodes : List NodeRecord) : Option String :=
  let lines := lines zone nodes
  let widths := widths lines
  if widths.all (· ≤ greatestWidth) then some (String.ofList (lines.flatMap (line widths))) else none

end ClusterConsole.Plain

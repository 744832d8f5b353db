import LineChat.Text.Width

/-!
# Boxed Tables

Draws a table with a heading and one row, in box drawing characters.

Each column is as wide as its widest line, heading included, with one space on
either side; texts stand at the left. A cell with several lines makes its row
that high, and the other cells of the row are filled with blank lines.

## Main definitions

* `cellLines`: The lines of a cell.
* `columnWidths`: The width of each column.
* `drawTable`: The table as text, without a newline at the end.
-/

namespace LineChat

namespace Text

/-- The lines of a cell. -/
def cellLines (s : String) : List String := s.splitOn "\n"

/-- The columns of the widest line of a cell. -/
def cellWidth (s : String) : Nat :=
  (cellLines s).foldl (fun n l => max n (columns l)) 0

/-- The width of each column of a table. -/
def columnWidths (heading row : List String) : List Nat :=
  List.zipWith (fun h c => max (cellWidth h) (cellWidth c)) heading row

/-- A text `n` times over. -/
def repeated (n : Nat) (s : String) : String := String.join (List.replicate n s)

/-- A rule across the table, from its four characters. -/
def rule (left fill joint right : String) (widths : List Nat) : String :=
  left ++ String.intercalate joint (widths.map fun w => repeated (w + 2) fill) ++ right

/-- A text filled up to a width, with a space on either side. -/
def padded (width : Nat) (s : String) : String :=
  " " ++ s ++ repeated (width - columns s) " " ++ " "

/-- The lines of one row. -/
def rowLines (widths : List Nat) (cells : List String) : List String :=
  let parts := cells.map cellLines
  let height := parts.foldl (fun n p => max n p.length) 0
  (List.range height).map fun i =>
    let texts := List.zipWith (fun w p => padded w (p.getD i "")) widths parts
    "│" ++ String.intercalate "┆" texts ++ "│"

/-- A table with a heading and one row. -/
def drawTable (heading row : List String) : String :=
  let widths := columnWidths heading row
  String.intercalate "\n"
    ([rule "┌" "─" "┬" "┐" widths] ++ rowLines widths heading ++ [rule "╞" "═" "╪" "╡" widths]
      ++ rowLines widths row ++ [rule "└" "─" "┴" "┘" widths])

end Text

end LineChat

import TurnByTurn.Text.Wrap

/-! # Tables

A table is drawn with lines of ASCII characters around all cells. A cell may have several lines; a
column is as wide as its widest line, up to a limit.

* **`Table.draw`** — a table from its header and its rows. -/

namespace TurnByTurn.Text.Table

/-- The columns that a column of a table has at most. -/
def widest : Nat := 65535

/-- The lines of a cell. -/
def cellLines (cell : String) : List (List Char) := cell.toList.splitOn '\n'

/-- The columns that a cell takes. -/
def cellWidth (cell : String) : Nat := ((cellLines cell).map width).foldl max 0

/-- The widths of the columns of some rows, without the blanks around their cells. A column has at least
the width of one character. -/
def widths (rows : List (List String)) : List Nat :=
  let wanted := rows.foldl (fun ws row => (ws.zip (row.map cellWidth)).map fun (a, b) => max a b)
    ((rows.headD []).map fun _ => 1)
  wanted.map (min widest)

/-- The width of a column with a blank on both sides, as far as the limit lets it. -/
def paddedWidth (w : Nat) : Nat := min widest (w + 2)

/-- A character again and again. -/
def fill (n : Nat) (c : Char) : String := .ofList (List.replicate n c)

/-- A line between rows, made of the characters at its left end, in cells, between cells and at its right
end. -/
def border (left line cross right : Char) (ws : List Nat) : String :=
  let cells := ws.map fun w => fill (paddedWidth w) line
  left.toString ++ cross.toString.intercalate cells ++ right.toString

/-- A line of a cell with blanks around it. -/
def padLine (w : Nat) (line : List Char) : String :=
  " " ++ .ofList line ++ fill (w - width line + 1) ' '

/-- The lines of a cell, filled up to some height with blank ones. -/
def padCell (w height : Nat) (lines : List (List Char)) : List String :=
  lines.map (padLine w) ++ List.replicate (height - lines.length) (fill (paddedWidth w) ' ')

/-- The lines of a row, as many as its highest cell has. -/
def rowLines (ws : List Nat) (row : List String) : List String :=
  let cells := List.zipWith (fun w cell => (w, (cellLines cell).flatMap (wrap w))) ws row
  let height := (cells.map fun (_, lines) => lines.length).foldl max 0
  -- the lines grow by a cell at a time
  cells.foldl (fun done (w, lines) =>
    List.zipWith (fun line part => line ++ part ++ "|") done (padCell w height lines))
    (List.replicate height "|")

/-- Rows with lines between them. -/
def body (ws : List Nat) (rows : List (List String)) : List String :=
  (rows.map (rowLines ws)).intersperse [border '|' '-' '+' '|' ws] |>.flatten

/-- **The table of a header and rows.** -/
def draw (header : List String) (rows : List (List String)) : String :=
  let ws := widths (header :: rows)
  let line := border '+' '-' '+' '+' ws
  "\n".intercalate <|
    line :: rowLines ws header ++ border '+' '=' '=' '+' ws :: body ws rows ++ [line]

end TurnByTurn.Text.Table

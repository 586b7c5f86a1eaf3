import DeclaredApi.Text.Lines

/-
  Tables in boxes.

  A column has a heading and cells.  It is as wide as its
  widest line, where tabs do not count; a cell is laid out in
  the width of its column and has one blank on each side.  A
  row is as high as its highest cell.

  Key definitions include:
    * `Column`
    * `Table`
    * `Table.rows`
    * `Table.widths`
    * `Table.cellLines`
    * `Table.rule`
    * `Table.render`
-/

------------------------------------------------------------
-- Tables
------------------------------------------------------------

namespace DeclaredApi

/- A heading with the cells below it. -/
structure Column (α : Type) where
  heading : String
  cells : List α

/- Columns side by side. -/
structure Table (α : Type) where
  columns : List (Column α)

namespace Table

/- The headings of the columns. -/
def headings {α : Type} (table : Table α) : List String :=
  table.columns.map Column.heading

/- The number of rows. -/
def height {α : Type} (table : Table α) : Nat :=
  (table.columns.map (fun c => c.cells.length)).foldl max 0

/- The cells of each row. -/
def rows {α : Type} (table : Table α) : List (List α) :=
  (List.range table.height).map (fun i =>
    table.columns.filterMap (fun c => c.cells[i]?))

end Table

end DeclaredApi

------------------------------------------------------------
-- Cells
------------------------------------------------------------

namespace DeclaredApi

namespace Table

/- The width of a column. -/
def columnWidth (column : Column StyledText) : Nat :=
  (column.cells.map Text.naturalWidth).foldl max
    (Text.naturalWidth (.ofString column.heading))

/- The widths of the columns. -/
def widths (table : Table StyledText) : List Nat :=
  table.columns.map columnWidth

/- The lines of all cells as they are laid out. -/
def cellLines (table : Table StyledText) : List StyledText :=
  table.columns.flatMap (fun column =>
    column.cells.flatMap (Text.layout (columnWidth column)))

/-
  A line of a cell on the display, with its blanks.  Padding
  is added by cells, before and after the blanks.
-/
def shownLine
    (width : Nat)
    (line : StyledText) : String :=
  let inner := Text.adjusted width line.runs
  let outer :=
    Text.adjusted (width + 2) ([" "] ++ inner ++ [" "])
  String.join (Text.adjusted (width + 2) outer)

/- The lines of a cell on the display. -/
def shownCell
    (width : Nat)
    (cell : StyledText) : List String :=
  (Text.layout width cell).map (shownLine width)

end Table

end DeclaredApi

------------------------------------------------------------
-- Lines of a Table
------------------------------------------------------------

namespace DeclaredApi

namespace Table

/- The characters of a line between two rows. -/
structure Rule where
  left : String
  line : Char
  joint : String
  right : String

/- The line above the headings. -/
def topRule : Rule :=
  ⟨"┏", '━', "┳", "┓"⟩

/- The line below the headings. -/
def headingRule : Rule :=
  ⟨"┡", '━', "╇", "┩"⟩

/- The line below the last row. -/
def bottomRule : Rule :=
  ⟨"└", '─', "┴", "┘"⟩

/- A text that repeats one character. -/
def repeated
    (c : Char)
    (count : Nat) : String :=
  String.ofList (List.replicate count c)

/- A line across columns of the given widths. -/
def rule
    (r : Rule)
    (widths : List Nat) : String :=
  r.left ++
    r.joint.intercalate
      (widths.map (fun width => repeated r.line (width + 2))) ++
    r.right

/- The lines of a row, with a bar between the columns. -/
def rowLines
    (bar : String)
    (widths : List Nat)
    (cells : List StyledText) : List String :=
  let columns := widths.zipWith shownCell cells
  let height := (columns.map List.length).foldl max 0
  (List.range height).map (fun i =>
    let line := widths.zipWith
      (fun width lines =>
        (lines[i]?).getD (Text.blanks (width + 2)))
      columns
    bar ++ bar.intercalate line ++ bar)

end Table

end DeclaredApi

------------------------------------------------------------
-- Text of a Table
------------------------------------------------------------

namespace DeclaredApi

namespace Table

/- The lines of a table from top to bottom. -/
def lines (table : Table StyledText) : List String :=
  let widths := table.widths
  [rule topRule widths] ++
    rowLines "┃" widths
      (table.headings.map StyledText.ofString) ++
    [rule headingRule widths] ++
    table.rows.flatMap (rowLines "│" widths) ++
    [rule bottomRule widths]

/- The text of a table; each line ends with a newline. -/
def render (table : Table StyledText) : String :=
  String.join (table.lines.map (fun line => line ++ "\n"))

end Table

end DeclaredApi

import Conform.Console.Layout
import Conform.Diagnostic

/-! # Tables

A table has a row of headings and rows of cells. A cell may have several lines; the row is as high
as its highest cell and a column as wide as its widest line. Cells are texts with markup.
-/

namespace Conform.Table

/-- A cell as its lines. -/
abbrev Cell := List (List Char)

/-- The cell of a text with markup. -/
def cell (s : String) : Except Markup.Fault Cell :=
  (Markup.render s).map Layout.expandedLines

/-- The width of a cell. -/
def Cell.width (cell : Cell) : Nat := (cell.map Layout.width).foldl max 0

/-- The widths of the columns of some rows. -/
def widths (columns : Nat) (rows : List (List Cell)) : List Nat :=
  rows.foldl (fun known row => known.zipWith max (row.map Cell.width)) (List.replicate columns 0)

/-- A line filled up with spaces to a width. -/
def pad (width : Nat) (line : List Char) : List Char :=
  line ++ List.replicate (width - Layout.width line) ' '

/-- A line of a table with a border between and around the columns. -/
def framed (border : Char) (widths : List Nat) (columns : List (List Char)) : List Char :=
  border ::
    (widths.zipWith (fun width line => ' ' :: pad width line ++ [' ', border]) columns).flatten

/-- The lines of a row. -/
def rowLines (border : Char) (widths : List Nat) (row : List Cell) : List (List Char) :=
  let height := (row.map List.length).foldl max 0
  (List.range height).map fun i => framed border widths (row.map fun cell => cell.getD i [])

/-- A line that separates rows: its ends, the line and its crossings with the borders of columns. -/
def rule (first line crossing last : Char) (widths : List Nat) : List Char :=
  let pieces := widths.map fun width => List.replicate (width + 2) line
  first :: ((pieces.intersperse [crossing]).flatten ++ [last])

/-- The lines of a table. -/
def lines (headings : List Cell) (rows : List (List Cell)) : List (List Char) :=
  let widths := widths headings.length (headings :: rows)
  [rule '┏' '━' '┳' '┓' widths] ++ rowLines '┃' widths headings ++
    [rule '┡' '━' '╇' '┩' widths] ++ rows.flatMap (rowLines '│' widths) ++
    [rule '└' '─' '┴' '┘' widths]

/-- The headings of a table of diagnostics. -/
def headings : List Cell := ["file", "line", "severity", "message"].map fun s => [s.toList]

/-- The row of a diagnostic, as it is shown to someone who looks from a directory. -/
def row (root : Option FilePath) (d : Diagnostic) : Except Markup.Fault (List Cell) :=
  [d.file.shown root, toString d.line, d.severity.text, d.message].mapM cell

/-- The table of some diagnostics. -/
def ofDiagnostics (root : Option FilePath) (ds : List Diagnostic) : Except Markup.Fault String :=
  (ds.mapM (row root)).map fun rows => Layout.ended (lines headings rows)

end Conform.Table

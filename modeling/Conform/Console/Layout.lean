import Conform.Console.Markup
import Conform.Text.CodePoint

/-! # Lines on a console

A line is as wide as its characters together. A tab leads to the next column that is a multiple of
eight, counted from the start of the line.
-/

namespace Conform.Layout

/-- The number of columns of a line without tabs. -/
def width (line : List Char) : Nat := line.foldl (fun columns c => columns + Text.columns c.toNat) 0

/-- The lines of a text; a text has one line more than it has line feeds. -/
def lines (s : String) : List (List Char) := Text.splitOn '\n' s.toList

/-- The number of spaces that a tab in a column takes. -/
def tabSize (column : Nat) : Nat := 8 - column % 8

/-- A line from a column on, with spaces in the place of tabs. -/
def expandFrom (column : Nat) : List Char → List Char
  | [] => []
  | c :: rest =>
    if c == '\t' then
      List.replicate (tabSize column) ' ' ++ expandFrom (column + tabSize column) rest
    else c :: expandFrom (column + Text.columns c.toNat) rest

/-- The lines of a text, with spaces in the place of tabs. -/
def expandedLines (s : String) : List (List Char) := (lines s).map (expandFrom 0)

/-- Lines as a text in which each of them ends. -/
def ended (lines : List (List Char)) : String :=
  String.ofList (lines.flatMap fun line => line ++ ['\n'])

/-- What a console shows of a text with markup. -/
def printed (s : String) : Except Markup.Fault String :=
  (Markup.render s).map fun shown => ended (expandedLines shown)

end Conform.Layout

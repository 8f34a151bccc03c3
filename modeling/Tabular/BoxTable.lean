import Tabular.Text.Width

/-!
# Boxed tables

A table drawn with box characters: a header row under a solid rule, a double rule below it, dashed
rules between the rows, and dashed lines between the columns. A column is as wide as its widest
cell, and each cell has one space on either side.
-/

namespace Tabular.BoxTable

/-- The characters of one horizontal rule. -/
structure Rule where
  left : String
  line : Char
  cross : String
  right : String

/-- The rule above the header. -/
def topRule : Rule := ⟨"┌", '─', "┬", "┐"⟩

/-- The rule below the header. -/
def headerRule : Rule := ⟨"╞", '═', "╪", "╡"⟩

/-- The rule between two rows. -/
def rowRule : Rule := ⟨"├", '╌', "┼", "┤"⟩

/-- The rule below the last row. -/
def bottomRule : Rule := ⟨"└", '─', "┴", "┘"⟩

/-- A rule across columns of the given widths. -/
def Rule.draw (rule : Rule) (widths : List Nat) : String :=
  rule.left ++
    String.intercalate rule.cross (widths.map fun w => .ofList (List.replicate (w + 2) rule.line)) ++
    rule.right

/-- A cell filled up to the width of its column, with a space on either side. -/
def drawCell (columnWidth : Nat) (cell : String) : String :=
  " " ++ cell ++ String.ofList (List.replicate (columnWidth - Text.width cell) ' ') ++ " "

/-- A row of cells. -/
def drawRow (widths : List Nat) (cells : List String) : String :=
  "│" ++ String.intercalate "┆" (List.zipWith drawCell widths cells) ++ "│"

/-- The widths of the columns: those of the widest cells, and at least 1. -/
def columnWidths (header : List String) (rows : List (List String)) : List Nat :=
  rows.foldl (fun widths row => List.zipWith (fun w cell => max w (Text.width cell)) widths row)
    (header.map fun cell => max 1 (Text.width cell))

/-- The drawing of a header and at least one row, without a line break at its end. -/
def draw (header : List String) (rows : List (List String)) : String :=
  let widths := columnWidths header rows
  let body := String.intercalate ("\n" ++ rowRule.draw widths ++ "\n") (rows.map (drawRow widths))
  String.intercalate "\n"
    [topRule.draw widths, drawRow widths header, headerRule.draw widths, body, bottomRule.draw widths]

end Tabular.BoxTable

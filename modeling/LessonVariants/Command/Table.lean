import LessonVariants.Command.Markup
import LessonVariants.Text.Wrap

/-! # Tables on the console

    A table is as wide as its columns need: each is as wide as its widest cell, with a blank on either
    side and a rule beside it.  The title is wrapped to the width of the table.  A cell of several
    lines makes its row several lines high; the other cells of the row are then empty below their
    own lines. -/

namespace LessonVariants

/-- A table: its title, its header and its rows, with markup. -/
structure Table where
  title  : String
  header : List String
  rows   : List (List String)
  deriving Repr

/-- The lines that a table shows: those of its title, and the cells of its header and its rows line
    by line. -/
structure ShownTable where
  title : List String
  cells : List (List String)
  deriving Repr

namespace Table

/-- The widths of columns, given rows of shown cells. -/
def columnWidths (rows : List (List (List Char))) : List Nat :=
  rows.foldl (fun widths row => List.zipWith max widths (row.map measuredWidth))
    ((rows.head?.getD []).map fun _ => 0)

/-- The lines of a cell in its column. -/
def cellLines (column : Nat) (cell : List Char) : List (List Char) :=
  (wrap false column cell).map fun line => cropped column (withoutExcessBlanks column line)

/-- The lines of a row whose cells are given line by line. -/
def rowLines (cells : List (List (List Char))) : List (List String) :=
  let height := (cells.map List.length).foldl max 0
  (List.range height).map fun i => cells.map fun lines => String.ofList (lines[i]?.getD [])

/-- The width of a table, from the widths of its columns. -/
def width (columns : List Nat) : Nat :=
  columns.foldl (fun total w => total + w + 3) 1

/-- What a table shows. -/
def shown (t : Table) : Except MarkupError ShownTable := do
  let rows ← (t.header :: t.rows).mapM fun row => row.mapM Markup.shown
  let title ← Markup.shown t.title
  let columns := columnWidths rows
  pure {
    title := (wrap true (width columns) title).map String.ofList
    cells := rows.flatMap fun row =>
      rowLines (List.zipWith cellLines columns row) }

end Table

end LessonVariants

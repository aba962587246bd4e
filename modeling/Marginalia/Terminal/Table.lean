/-
Tables in boxes.

A table is a list of columns; each has a title, a share of the width and a cell for every
row.  Cells are texts with tags, folded to the width of their column, and lines are drawn
between all rows.
-/
import Marginalia.Terminal.Markup

namespace Marginalia

/-- A column of a table. -/
structure Column where
  title : String
  share : Nat
  cells : List String
deriving Repr

/-- A column whose cells are rendered, and the width of its cells. -/
structure RenderedColumn where
  title : StyledText
  width : Nat
  cells : List StyledText
deriving Repr

/-- The characters of a horizontal line or of a line of cells. -/
structure Border where
  left : Char
  fill : Char
  between : Char
  right : Char

namespace Border

/-- The line above the titles. -/
def top : Border := ⟨'┏', '━', '┳', '┓'⟩

/-- A line of titles. -/
def titles : Border := ⟨'┃', ' ', '┃', '┃'⟩

/-- The line below the titles. -/
def belowTitles : Border := ⟨'┡', '━', '╇', '┩'⟩

/-- A line of cells. -/
def cells : Border := ⟨'│', ' ', '│', '│'⟩

/-- The line between two rows. -/
def betweenRows : Border := ⟨'├', '─', '┼', '┤'⟩

/-- The line below the last row. -/
def bottom : Border := ⟨'└', '─', '┴', '┘'⟩

/-- Parts of a line with the characters around and between them. -/
def join (b : Border) (parts : List (List Char)) : List Char :=
  b.left :: [b.between].intercalate parts ++ [b.right]

/-- A horizontal line over columns of widths. -/
def across (b : Border) (widths : List Nat) : List Char :=
  b.join (widths.map fun n => List.replicate n b.fill)

end Border

namespace Table

/-- Divides a width by shares, each part rounded up out of what is left. -/
def widths (total : Nat) : List Nat → List Nat
  | [] => []
  | share :: shares =>
    let all := shares.foldl (· + ·) share
    let part := (share * total + all - 1) / all
    part :: widths (total - part) shares

/-- The style of titles. -/
def titleStyle : Style := { emphases := [(.bold, true)] }

/-- A line of a cell between blanks, in the style of the cell. -/
def paintedLine (style : Style) (line : StyledText) : List Char :=
  let blank : Segment := { chars := [' '] }
  (blank :: line.segments ++ [blank]).flatMap fun s => (s.onto style).painted

/-- The lines of a cell with blanks around them, in the style of the cell. -/
def cellLines (style : Style) (width : Nat) (t : StyledText) : List (List Char) :=
  (t.wrap width).map (paintedLine style)

/-- A line of a cell that has no such line. -/
def emptyLine (style : Style) (width : Nat) : List Char := style.paint (Cells.blanks (width + 2))

/-- The lines of a row of cells. -/
def rowLines (b : Border) (style : Style) (cells : List (Nat × StyledText)) : List (List Char) :=
  let columns := cells.map fun (width, t) => (width, cellLines style width t)
  let height := (columns.map fun c => c.2.length).foldl max 1
  (List.range height).map fun i =>
    b.join (columns.map fun (width, ls) => (ls[i]?).getD (emptyLine style width))

/-- The lines of rows with lines between them. -/
def rowsLines (columns : List RenderedColumn) : List (List Char) :=
  let widths := columns.map fun c => c.width + 2
  let count := ((columns.head?).map fun c => c.cells.length).getD 0
  let rows := (List.range count).map fun i =>
    rowLines .cells {} (columns.filterMap fun c => (c.cells[i]?).map fun t => (c.width, t))
  [Border.betweenRows.across widths].intercalate rows

/-- Renders the cells of columns. -/
def renderColumns (width : Nat) (columns : List Column) :
    Except MarkupFault (List RenderedColumn) := do
  let widths := widths (width - (columns.length + 1)) (columns.map Column.share)
  let read ← columns.mapM fun c => do return (← Markup.read c.title, ← c.cells.mapM Markup.read)
  (read.zip widths).mapM fun ((title, cells), n) => do
    return ⟨← title.styled, n - 2, ← cells.mapM Markup.Marked.styled⟩

/-- The lines of a table that is as wide as given. -/
def lines (width : Nat) (columns : List Column) : Except MarkupFault (List (List Char)) := do
  let columns ← renderColumns width columns
  let widths := columns.map fun c => c.width + 2
  return Border.top.across widths
    :: rowLines .titles titleStyle (columns.map fun c => (c.width, c.title))
    ++ Border.belowTitles.across widths :: rowsLines columns ++ [Border.bottom.across widths]

end Table

end Marginalia

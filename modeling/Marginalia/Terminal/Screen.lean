/-
Screens.

A `Screen` says how texts, headings and tables are printed.  A heading is a line of dashes
with a title in its middle; a title that is too long ends in an ellipsis.
-/
import Marginalia.Terminal.Highlight
import Marginalia.Terminal.Table

namespace Marginalia

namespace Heading

/-- The style of the dashes. -/
def dashStyle : Style := ((Style.ofText "cyan").toOption).getD {}

/-- A title that fills no more than so many cells. -/
def shorten (n : Nat) (t : StyledText) : StyledText :=
  if Cells.cells t.chars ≤ n then t
  else t.withChars (Cells.fit (n - 1) t.chars ++ ['…'])

/-- Some dashes. -/
def dashes (n : Nat) : List Char := List.replicate n '-'

/-- A line with a title in its middle. -/
def around (width : Nat) (title : StyledText) : StyledText :=
  let oneLine := title.withChars (title.chars.map fun c => if c == '\n' then ' ' else c)
  let title := shorten (width - 4) oneLine
  let side := (width - Cells.cells title.chars) / 2
  let left := StyledText.styled (dashes (side - 1) ++ [' ']) dashStyle
  let right := StyledText.styled (' ' :: dashes (side + 1)) dashStyle
  ((left.append title).append right).fit width

/-- The characters of a heading; without a title it has dashes only. -/
def ofText (width : Nat) (title : String) : Except MarkupFault (List Char) := do
  let text ← if title.isEmpty then .ok (StyledText.styled (dashes width) dashStyle)
    else (Markup.render title).map fun t => around width (Highlight.apply t)
  return text.segments.flatMap Segment.painted

end Heading

/-- How texts, headings and tables are printed. -/
structure Screen where
  /-- A text in which no tags count, and the end of its last line. -/
  text : List Char → List Char
  /-- The line over a table, with a title that can have tags. -/
  heading : String → Except MarkupFault (List Char)
  /-- The lines of a table, whose titles and cells can have tags. -/
  table : List Column → Except MarkupFault (List (List Char))

namespace Screen

/-- The number of cells in a line. -/
def lineWidth : Nat := 80

/-- The screen that prints as it is written down here, with the names of pictures replaced. -/
def documented : Screen where
  text cs := Picture.replace cs ++ ['\n']
  heading := Heading.ofText lineWidth
  table := Table.lines lineWidth

end Screen

end Marginalia

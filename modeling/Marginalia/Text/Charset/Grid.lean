/-
Sets of characters in rows of cells.

A set is written down row by row; a full stop stands for an empty cell.  `Grid.char?` answers
what a place holds and `Grid.places` where a character stands.
-/

namespace Marginalia

/-- Characters in rows of cells; rows are numbered from `first` on, cells from one on. -/
structure Grid where
  first : Nat
  rows : List String

/-- A row and a cell. -/
abbrev Grid.Place := Nat × Nat

namespace Grid

/-- The cells of a row; blanks and line ends only lay it out. -/
private def cells (row : String) : List Char := row.toList.filter fun c => c != ' ' && c != '\n'

/-- The character at a place. -/
def char? (g : Grid) (p : Place) : Option Char :=
  if p.1 < g.first || p.2 = 0 then none
  else match g.rows[p.1 - g.first]? with
    | none => none
    | some row => ((cells row)[p.2 - 1]?).filter (· != '.')

/-- The places of a character in the order of the cells. -/
def places (g : Grid) (c : Char) : List Place :=
  if c == '.' then []
  else (g.rows.zipIdx g.first).flatMap fun (row, i) =>
    if row.contains c then
      ((cells row).zipIdx 1).filterMap fun (d, k) => if d == c then some (i, k) else none
    else []

/-- The first place of a character. -/
def place? (g : Grid) (c : Char) : Option Place := (g.places c).head?

end Grid

end Marginalia

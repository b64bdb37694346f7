import SchemeCheck.Text.Basic

/-!
# SchemeCheck.Encoding.Grid

Coded sets of many characters, as grids of cells.  The cells stand in the order
of their codes, row by row.
-/

namespace SchemeCheck.Encoding

/-- The characters of a coded set in the order of their codes. -/
structure Grid where
  cells : Array Char

namespace Grid

/-- What stands in a cell without a character. -/
def free : Char := ' '

/-- The grid of the given lines, of which each holds `width` cells; free cells at
its end are left out. -/
def ofLines (width : Nat) (lines : List String) : Grid where
  cells :=
    (lines.flatMap fun line =>
      let row := line.toList
      row ++ List.replicate (width - row.length) free).toArray

def char? (grid : Grid) (i : Nat) : Option Char :=
  (grid.cells[i]?).filter (· ≠ free)

def place? (grid : Grid) (c : Char) : Option Nat :=
  if c = free then none else grid.cells.idxOf? c

def lastPlace? (grid : Grid) (c : Char) : Option Nat :=
  if c = free then none
  else (grid.cells.reverse.idxOf? c).map fun i => grid.cells.size - 1 - i

end Grid

end SchemeCheck.Encoding

import SchemeCheck.Text.Basic

/-!
# SchemeCheck.Text.Breaks

Rows for display.  When text is indented for a reader, it is cut at every
character that breaks a line on a screen, not only at line feeds: line feed,
carriage return (the pair counts once), vertical tab, form feed, the
separators U+001C to U+001E, U+0085, U+2028 and U+2029.
-/

namespace SchemeCheck.Text

/-- Whether a character breaks a row for display. -/
def isRowBreak (c : Char) : Bool :=
  let n := c.toNat
  (10 ≤ n && n ≤ 13) || (28 ≤ n && n ≤ 30) || n = 0x85 || n = 0x2028 || n = 0x2029

/-- What the rows to the right of a place look like: the row that starts
there, if any character has begun one, and the rows after it. -/
structure RowsRight where
  /-- The row being read, none where the text or a row has just ended. -/
  current : Option Text
  /-- The rows below it. -/
  below : List Text
  /-- Whether the next character is a line feed that may close a `\r\n`. -/
  atLineFeed : Bool

/-- Take one more character on the left. -/
def RowsRight.cons (c : Char) (right : RowsRight) : RowsRight :=
  if isRowBreak c then
    if c = '\r' && right.atLineFeed then
      { right with atLineFeed := false }
    else
      { current := some []
        below := right.current.toList ++ right.below
        atLineFeed := decide (c = '\n') }
  else
    { current := some (c :: right.current.getD [])
      below := right.below
      atLineFeed := false }

/-- The rows of a text; a break at the very end starts no further row. -/
def rows (text : Text) : List Text :=
  let right := text.foldr RowsRight.cons { current := none, below := [], atLineFeed := false }
  right.current.toList ++ right.below

end SchemeCheck.Text

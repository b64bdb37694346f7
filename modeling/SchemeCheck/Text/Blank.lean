import SchemeCheck.Text.Basic

/-!
# SchemeCheck.Text.Blank

The blank characters: the white space of Unicode together with the four
information separators U+001C to U+001F.  Values in a scheme are trimmed of
them at both ends.
-/

namespace SchemeCheck.Text

/-- Whether a character counts as blank. -/
def isBlank (c : Char) : Bool :=
  let n := c.toNat
  (9 ≤ n && n ≤ 13) || (28 ≤ n && n ≤ 32) || n = 0x85 || n = 0xA0 || n = 0x1680 ||
    (0x2000 ≤ n && n ≤ 0x200A) || n = 0x2028 || n = 0x2029 || n = 0x202F || n = 0x205F ||
    n = 0x3000

/-- The text without the characters of class `p` at either end. -/
def trimOf (p : Char → Bool) (text : Text) : Text :=
  ((text.dropWhile p).reverse.dropWhile p).reverse

/-- The text without blanks at either end. -/
def trim (text : Text) : Text :=
  trimOf isBlank text

end SchemeCheck.Text

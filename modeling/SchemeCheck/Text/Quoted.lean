import SchemeCheck.Text.Printable

/-!
# SchemeCheck.Text.Quoted

Quoted literals, the form in which messages show a value that the user wrote.
The quote is an apostrophe, unless the text holds an apostrophe and no double
quote.  Inside, the backslash and the quote are escaped, line feed, carriage
return and tab have short escapes, and every other character that is not
printable is written by its number.
-/

namespace SchemeCheck.Text

/-- The quote that a literal of the text is written with. -/
def quoteOf (text : Text) : Char :=
  if text.contains '\'' && !text.contains '"' then '"' else '\''

/-- The escape of a character by its number, in the shortest of three forms. -/
def numericEscape (c : Char) : Text :=
  let n := c.toNat
  if n ≤ 0xFF then '\\' :: 'x' :: lowerHex 2 n
  else if n ≤ 0xFFFF then '\\' :: 'u' :: lowerHex 4 n
  else '\\' :: 'U' :: lowerHex 8 n

/-- One character inside a literal with the given quote. -/
def quotedChar (quote c : Char) : Text :=
  if c = '\\' || c = quote then ['\\', c]
  else if c = '\n' then ['\\', 'n']
  else if c = '\r' then ['\\', 'r']
  else if c = '\t' then ['\\', 't']
  else if isPrintable c then [c]
  else numericEscape c

/-- The quoted literal of a text. -/
def quoted (text : Text) : Text :=
  let quote := quoteOf text
  quote :: text.flatMap (quotedChar quote) ++ [quote]

end SchemeCheck.Text

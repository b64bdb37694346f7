import SchemeCheck.Text.Blank

/-!
# SchemeCheck.Text.Decimal

The decimal digits of every script, and numbers as a caller writes them:
with blanks around them, a sign, and single underscores between digits.
-/

namespace SchemeCheck.Text

/-- The zeros of all scripts, each followed by the other nine digits. -/
def zeros : List Nat :=
  [0x30, 0x660, 0x6F0, 0x7C0, 0x966, 0x9E6, 0xA66, 0xAE6, 0xB66, 0xBE6, 0xC66, 0xCE6, 0xD66,
   0xDE6, 0xE50, 0xED0, 0xF20, 0x1040, 0x1090, 0x17E0, 0x1810, 0x1946, 0x19D0, 0x1A80, 0x1A90,
   0x1B50, 0x1BB0, 0x1C40, 0x1C50, 0xA620, 0xA8D0, 0xA900, 0xA9D0, 0xA9F0, 0xAA50, 0xABF0,
   0xFF10, 0x104A0, 0x10D30, 0x11066, 0x110F0, 0x11136, 0x111D0, 0x112F0, 0x11450, 0x114D0,
   0x11650, 0x116C0, 0x11730, 0x118E0, 0x11950, 0x11C50, 0x11D50, 0x11DA0, 0x16A60, 0x16AC0,
   0x16B50, 0x1D7CE, 0x1D7D8, 0x1D7E2, 0x1D7EC, 0x1D7F6, 0x1E140, 0x1E2F0, 0x1E950, 0x1FBF0]

def isDecimal (c : Char) : Bool :=
  zeros.any fun first => decide (first ≤ c.toNat) && decide (c.toNat < first + 10)

/-- Whether a text consists of digits with single underscores between them. -/
def isDigitRow (text : Text) : Bool :=
  (splitOn '_' text).all fun part => !part.isEmpty && part.all isDecimal

/-- The text without a sign in front. -/
def withoutSign (text : Text) : Text :=
  match text with
  | '+' :: rest => rest
  | '-' :: rest => rest
  | rest => rest

def maxWholeDigits : Nat := 4300

/-- The value of a decimal digit of some script. -/
def decimalValue (c : Char) : Nat :=
  ((zeros.find? fun first => decide (first ≤ c.toNat) && decide (c.toNat < first + 10)).map
    fun first => c.toNat - first).getD 0

/-- The whole number that a text spells, if it is not too long to be read. -/
def wholeNumber? (text : Text) : Option Int :=
  let body := trim text
  let row := withoutSign body
  let digits := row.filter isDecimal
  if isDigitRow row && decide (digits.length ≤ maxWholeDigits) then
    let n : Int := (digits.foldl (fun n c => n * 10 + decimalValue c) 0 : Nat)
    some (if body.head? = some '-' then -n else n)
  else none

/-- Whether a text spells a whole number that is not too long to be read. -/
def isWhole (text : Text) : Bool :=
  (wholeNumber? text).isSome

/-- Whether a text spells a decimal number, or one that is infinite or no
number. -/
def isReal (text : Text) : Bool :=
  let body := (withoutSign (trim text)).map Char.toLower
  if ["inf", "infinity", "nan"].contains (String.ofList body) then true
  else
    let (figures, exponent) := cutAt 'e' body
    let (whole, fraction) := cutAt '.' figures
    let part (digits : Text) : Bool := digits.isEmpty || isDigitRow digits
    (match exponent with
     | none => true
     | some power => isDigitRow (withoutSign power)) &&
    part whole && part (fraction.getD []) && !(whole.isEmpty && (fraction.getD []).isEmpty)

end SchemeCheck.Text

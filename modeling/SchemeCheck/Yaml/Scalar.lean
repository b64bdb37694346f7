import SchemeCheck.Text.Basic

/-!
# SchemeCheck.Yaml.Scalar

How a text may be written as a YAML scalar.  Two questions decide the style:
would a plain scalar be read back as a text and not as a number, a date or
another YAML 1.1 value (`readsAsText`), and which styles do its characters
allow (`analyse`).
-/

namespace SchemeCheck.Yaml

/-! ## What a plain scalar is read back as -/

def isDigitOrScore (c : Char) : Bool :=
  Text.isDigit c || c = '_'

/-- A row of digits and underscores that starts with a digit of class `first`. -/
def isDigitRow (first : Char → Bool) : Text → Bool
  | [] => false
  | c :: rest => first c && rest.all isDigitOrScore

/-- The text after an optional sign. -/
def afterSign : Text → Text
  | '+' :: rest => rest
  | '-' :: rest => rest
  | text => text

/-- A part of a number to base 60: one digit, or two of which the first is
below six. -/
def isSixtieth : Text → Bool
  | [c] => Text.isDigit c
  | [c, d] => decide ('0' ≤ c) && decide (c ≤ '5') && Text.isDigit d
  | _ => false

/-- The pieces after the first colon, if there is a colon. -/
def colonParts (text : Text) : Text × List Text :=
  Text.pieces ':' text

/-- Integers: decimal, binary, octal, hexadecimal or to base 60. -/
def isInteger (text : Text) : Bool :=
  let body := afterSign text
  match body with
  | '0' :: 'b' :: c :: rest => (c :: rest).all (fun d => d = '0' || d = '1' || d = '_')
  | '0' :: 'x' :: c :: rest =>
    (c :: rest).all (fun d => Text.isDigit d || d = '_' || ('a' ≤ d && d ≤ 'f') ||
      ('A' ≤ d && d ≤ 'F'))
  | ['0'] => true
  | '0' :: rest => rest.all (fun d => ('0' ≤ d && d ≤ '7') || d = '_')
  | _ =>
    let (head, parts) := colonParts body
    isDigitRow (fun c => Text.isDigit c && c ≠ '0') head && parts.all isSixtieth

/-- A row of digits with an optional exponent, the sign of which must be
written; `digits` are those allowed before the exponent. -/
def isFractionTail (text : Text) : Bool :=
  match text.dropWhile isDigitOrScore with
  | [] => true
  | e :: sign :: power =>
    (e = 'e' || e = 'E') && (sign = '+' || sign = '-') && !power.isEmpty && power.all Text.isDigit
  | _ => false

/-- Floating-point numbers: positional, with exponent, to base 60, infinite or
not a number. -/
def isFloat (text : Text) : Bool :=
  let body := afterSign text
  let (whole, fraction?) := Text.cutAt '.' body
  let specials := [".inf", ".Inf", ".INF"].map String.toList
  let undefinedForms := [".nan", ".NaN", ".NAN"].map String.toList
  specials.contains body || undefinedForms.contains text ||
    match fraction? with
    | none => false
    | some fraction =>
      (isDigitRow Text.isDigit whole && isFractionTail fraction) ||
        (whole.isEmpty && body.length = text.length &&
          isDigitRow Text.isDigit (fraction.takeWhile isDigitOrScore) && isFractionTail fraction) ||
        (let (head, parts) := colonParts whole
         isDigitRow Text.isDigit head && !parts.isEmpty && parts.all isSixtieth &&
           fraction.all isDigitOrScore)

/-- One or two digits in front, and what follows them. -/
def afterOneOrTwoDigits : Text → Option Text
  | c :: d :: rest =>
    if Text.isDigit c then if Text.isDigit d then some rest else some (d :: rest) else none
  | [c] => if Text.isDigit c then some [] else none
  | [] => none

/-- Exactly `n` digits in front, and what follows them. -/
def afterDigits (n : Nat) (text : Text) : Option Text :=
  if (text.take n).length = n && (text.take n).all Text.isDigit then some (text.drop n) else none

/-- The given character in front, and what follows it. -/
def afterChar (c : Char) : Text → Option Text
  | d :: rest => if d = c then some rest else none
  | [] => none

/-- The zone at the end of a time: nothing, `Z`, or an offset. -/
def isZone (text : Text) : Bool :=
  match text with
  | [] => true
  | _ =>
    match text.dropWhile (fun c => c = ' ' || c = '\t') with
    | ['Z'] => true
    | sign :: rest =>
      (sign = '+' || sign = '-') &&
        match afterOneOrTwoDigits rest with
        | some [] => true
        | some minutes => (afterChar ':' minutes >>= afterDigits 2) == some []
        | none => false
    | [] => false

/-- The time of day at the end of a timestamp, with what separates it from the
date. -/
def isTimeOfDay (text : Text) : Bool :=
  let clock? : Option Text :=
    match text with
    | 'T' :: rest => some rest
    | 't' :: rest => some rest
    | c :: rest =>
      if c = ' ' || c = '\t' then some (rest.dropWhile (fun d => d = ' ' || d = '\t')) else none
    | [] => none
  let rest? := clock? >>= afterOneOrTwoDigits >>= afterChar ':' >>= afterDigits 2 >>=
    afterChar ':' >>= afterDigits 2
  match rest? with
  | none => false
  | some ('.' :: rest) => isZone (rest.dropWhile Text.isDigit)
  | some rest => isZone rest

/-- Dates and points in time. -/
def isTimestamp (text : Text) : Bool :=
  match afterDigits 4 text >>= afterChar '-' with
  | none => false
  | some rest =>
    (afterDigits 2 rest >>= afterChar '-' >>= afterDigits 2) == some [] ||
      match afterOneOrTwoDigits rest >>= afterChar '-' >>= afterOneOrTwoDigits with
      | some time => isTimeOfDay time
      | none => false

/-- The words and signs that are read as a truth value, as nothing, or as one
of the special YAML keys. -/
def reservedWords : List Text :=
  ["yes", "Yes", "YES", "no", "No", "NO", "true", "True", "TRUE", "false", "False", "FALSE",
    "on", "On", "ON", "off", "Off", "OFF", "~", "null", "Null", "NULL", "", "<<", "=", "!", "&",
    "*"].map String.toList

/-- Whether a plain scalar is read back as the text itself. -/
def readsAsText (text : Text) : Bool :=
  !(reservedWords.contains text || isInteger text || isFloat text || isTimestamp text)

/-! ## Which styles the characters allow -/

/-- The characters that end a line inside a scalar. -/
def isBreak (c : Char) : Bool :=
  c = '\n' || c = '\u0085' || c = '\u2028' || c = '\u2029'

/-- The characters next to which an indicator acts as one. -/
def isSpaceLike (c : Char) : Bool :=
  c = '\x00' || c = ' ' || c = '\t' || c = '\r' || isBreak c

/-- The characters that only a double-quoted scalar can hold, by their escape. -/
def isSpecial (c : Char) : Bool :=
  let n := c.toNat
  !(c = '\n' || (0x20 ≤ n && n ≤ 0x7E)) &&
    !((n = 0x85 || (0xA0 ≤ n && n ≤ 0xD7FF) || (0xE000 ≤ n && n ≤ 0xFFFD) ||
        (0x10000 ≤ n && n < 0x10FFFF)) && n ≠ 0xFEFF)

/-- What the characters of a text allow. -/
structure Analysis where
  empty : Bool
  multiline : Bool
  allowPlain : Bool
  allowSingleQuoted : Bool

/-- Whether a character acts as an indicator at its place, so that a plain
scalar cannot hold it. -/
def isIndicatorAt (previous : Option Char) (c : Char) (next : Option Char) : Bool :=
  let nextIsSpace := (next.map isSpaceLike).getD true
  match previous with
  | none =>
    ['#', ',', '[', ']', '\x7b', '\x7d', '&', '*', '!', '|', '>', '\'', '"', '%', '@', '\x60'].contains c ||
      ((c = '?' || c = ':' || c = '-') && nextIsSpace)
  | some p => (c = ':' && nextIsSpace) || (c = '#' && isSpaceLike p)

/-- Whether some character acts as an indicator at its place. -/
def hasIndicator : Option Char → Text → Bool
  | _, [] => false
  | previous, c :: rest => isIndicatorAt previous c rest.head? || hasIndicator (some c) rest

/-- Whether a character of class `p` stands directly before one of class `q`. -/
def hasPair (p q : Char → Bool) : Text → Bool
  | [] => false
  | c :: rest => (p c && (rest.head?.map q).getD false) || hasPair p q rest

/-- The analysis of a text. -/
def analyse (text : Text) : Analysis :=
  if text.isEmpty then
    { empty := true, multiline := false, allowPlain := true, allowSingleQuoted := true }
  else
    let isSpace (c : Char) : Bool := c = ' '
    let multiline := text.any isBreak
    let special := text.any isSpecial
    let edge (c : Option Char) : Bool := (c.map fun c => isSpace c || isBreak c).getD false
    let atEdge := edge text.head? || edge text.getLast?
    let breakSpace := hasPair isBreak isSpace text
    let spaceBreak := hasPair isSpace isBreak text
    let indicator := hasIndicator none text || "---".toList.isPrefixOf text ||
      "...".toList.isPrefixOf text
    { empty := false
      multiline := multiline
      allowPlain := !(atEdge || breakSpace || spaceBreak || special || multiline || indicator)
      allowSingleQuoted := !(breakSpace || spaceBreak || special) }

end SchemeCheck.Yaml

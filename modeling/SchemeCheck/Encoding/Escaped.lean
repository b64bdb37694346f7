import SchemeCheck.Encoding.Scan

/-!
# SchemeCheck.Encoding.Escaped

Text in bytes of ASCII or Latin-1, where the other characters are written as a
backslash and their number.  The raw form knows only the numbers of four and
eight digits; the full form writes controls and backslashes, too, and reads the
usual short escapes.
-/

namespace SchemeCheck.Encoding

/-- Which characters are escaped. -/
inductive Escaped where
  | full
  | raw
  deriving DecidableEq

namespace Escaped

def codec : Escaped → String
  | full => "unicodeescape"
  | raw => "rawunicodeescape"

/-! ## Writing -/

/-- The escape of a character with four or eight digits. -/
def longEscape (c : Char) : Text :=
  if c.toNat < 0x10000 then '\\' :: 'u' :: Text.lowerHex 4 c.toNat
  else '\\' :: 'U' :: Text.lowerHex 8 c.toNat

/-- The written form of a character. -/
def writtenChar (form : Escaped) (c : Char) : Text :=
  match form with
  | raw => if c.toNat < 0x100 then [c] else longEscape c
  | full =>
    if c = '\\' then ['\\', '\\']
    else if c = '\t' then ['\\', 't']
    else if c = '\n' then ['\\', 'n']
    else if c = '\r' then ['\\', 'r']
    else if ' ' ≤ c ∧ c < '\x7f' then [c]
    else if c.toNat < 0x100 then '\\' :: 'x' :: Text.lowerHex 2 c.toNat
    else longEscape c

def encode (form : Escaped) (text : Text) : List UInt8 :=
  (text.flatMap form.writtenChar).map fun c => UInt8.ofNat c.toNat

/-! ## Reading -/

def hexValue? (b : UInt8) : Option Nat :=
  let n := b.toNat
  if 48 ≤ n ∧ n < 58 then some (n - 48)
  else if 97 ≤ n ∧ n < 103 then some (n - 87)
  else if 65 ≤ n ∧ n < 71 then some (n - 55)
  else none

/-- The character with a number; a surrogate is none, and another one stands for
it. -/
def charAt (n : Nat) : Char :=
  if 0xD800 ≤ n ∧ n < 0xE000 then '\ufffd' else Char.ofNat n

/-- Read the character of `count` hexadecimal digits behind a backslash and a
letter.  `truncated` is the reason where there are fewer, `tooLarge` where there
is no such character. -/
def readHex (count : Nat) (truncated tooLarge : String) (digits : List UInt8) : Front :=
  let values := ((digits.take count).map hexValue?).takeWhile Option.isSome
  if values.length < count then .malformed (1 + values.length) truncated.toList
  else
    let n := values.foldl (fun n value => n * 16 + value.getD 0) 0
    if 0x110000 ≤ n then .malformed (1 + count) tooLarge.toList
    else .char (charAt n) (1 + count)

/-- The characters of the escapes with one letter. -/
def shortEscapes : List (Char × Char) :=
  [('\\', '\\'), ('\'', '\''), ('"', '"'), ('a', '\x07'), ('b', '\x08'), ('t', '\t'), ('n', '\n'),
   ('v', '\x0b'), ('f', '\x0c'), ('r', '\r')]

def isOctal (b : UInt8) : Bool :=
  48 ≤ b.toNat && b.toNat < 56

/-- The reason for an escape by name that is not complete. -/
def malformedName : Text := "malformed \\N character escape".toList

/-- Read an escape by name, behind its letter.  No names are known. -/
def readName (rest : List UInt8) : Front :=
  match rest with
  | [] => .malformed 1 malformedName
  | b :: rest =>
    if b ≠ 0x7B then .malformed 1 malformedName
    else
      let name := rest.takeWhile (· ≠ 0x7D)
      if name.length = rest.length then .malformed (2 + name.length) malformedName
      else if name.isEmpty then .malformed 2 malformedName
      else .malformed (3 + name.length) "unknown Unicode character name".toList

/-- What a backslash and the byte behind it start, in the full form. -/
def readFull (next : UInt8) (rest : List UInt8) : Front :=
  let c := Char.ofNat next.toNat
  if c = '\n' then .text [] 1
  else if isOctal next then
    let digits := next :: (rest.take 2).takeWhile isOctal
    .char (Char.ofNat (digits.foldl (fun n b => n * 8 + (b.toNat - 48)) 0)) digits.length
  else if c = 'x' then readHex 2 "truncated \\xXX escape" "illegal Unicode character" rest
  else if c = 'u' then readHex 4 "truncated \\uXXXX escape" "illegal Unicode character" rest
  else if c = 'U' then readHex 8 "truncated \\UXXXXXXXX escape" "illegal Unicode character" rest
  else if c = 'N' then readName rest
  else
    match shortEscapes.lookup c with
    | some c => .char c 1
    | none => .text ['\\', c] 1

/-- The same in the raw form. -/
def readRaw (next : UInt8) (rest : List UInt8) : Front :=
  let c := Char.ofNat next.toNat
  if c = 'u' then readHex 4 "truncated \\uXXXX escape" "\\Uxxxxxxxx out of range" rest
  else if c = 'U' then readHex 8 "truncated \\UXXXXXXXX escape" "\\Uxxxxxxxx out of range" rest
  else .text ['\\', c] 1

def front (form : Escaped) (b : UInt8) (rest : List UInt8) : Front :=
  if b ≠ 0x5C then .char (Char.ofNat b.toNat) 0
  else
    match form, rest with
    | full, [] => .malformed 0 "\\ at end of string".toList
    | raw, [] => .char '\\' 0
    | full, next :: rest => readFull next rest
    | raw, next :: rest => readRaw next rest

end Escaped

end SchemeCheck.Encoding

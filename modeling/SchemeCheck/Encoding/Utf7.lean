import SchemeCheck.Encoding.Base64
import SchemeCheck.Encoding.Utf16

/-!
# SchemeCheck.Encoding.Utf7

UTF-7.  Most characters of ASCII stand for themselves.  The others are written
between a plus sign and a minus sign: as the digits of base 64 that spell their
UTF-16 units.  The minus sign is left out before a character that could not be
a digit.
-/

namespace SchemeCheck.Encoding.Utf7

def isDigit64 (c : Char) : Bool :=
  c.isAlphanum || c = '+' || c = '/'

/-- Whether a character is written as itself. -/
def isDirect (c : Char) : Bool :=
  (' ' ≤ c && c < '\x7f' && !(['+', '\\', '~'].contains c)) || ['\t', '\n', '\r'].contains c

/-! ## Writing -/

/-- The digits that spell characters, as far as they are needed. -/
def digitsOf (text : Text) : Text :=
  (Base64.encode (text.flatMap (Utf16.encodeChar .big))).takeWhile (· ≠ '=')

/-- The written form of a text; the plus sign itself has a short one. -/
def written (text : Text) : Text :=
  match text with
  | [] => []
  | c :: rest =>
    if isDirect c then c :: written rest
    else if c = '+' then '+' :: '-' :: written rest
    else
      let shifted := c :: rest.takeWhile fun c => !isDirect c
      let after := rest.dropWhile fun c => !isDirect c
      let close := match after with
        | [] => true
        | d :: _ => isDigit64 d || d = '-'
      '+' :: digitsOf shifted ++ (if close then ['-'] else []) ++ written after
termination_by text.length
decreasing_by
  all_goals first
    | exact Nat.lt_succ_self _
    | exact Nat.lt_succ_of_le (List.dropWhile_sublist _).length_le

def encode (text : Text) : List UInt8 :=
  (written text).map fun c => UInt8.ofNat c.toNat

/-! ## Reading -/

/-- The value of a digit of base 64. -/
def digitValue (c : Char) : Nat :=
  let n := c.toNat
  if 97 ≤ n then n - 71 else if 65 ≤ n then n - 65 else if 48 ≤ n then n + 4
  else if c = '+' then 62 else 63

/-- The units of 16 bits in a number of `bits` bits, the highest first; bits that
fill no unit are at its end. -/
def unitsOf (n bits : Nat) : List Nat :=
  (List.range (bits / 16)).map fun i => n / Nat.pow 2 (bits - 16 * (i + 1)) % 0x10000

/-- What stands for a surrogate without its partner. -/
def lone : Char := '\ufffd'

/-- The characters that units spell, and whether the last unit waits for its
partner. -/
def charsOf : List Nat → Text × Bool
  | [] => ([], false)
  | [n] => if Utf16.isHigh n then ([], true) else ([if Utf16.isLow n then lone else Char.ofNat n], false)
  | n :: m :: rest =>
    if Utf16.isHigh n && Utf16.isLow m then
      let (text, waits) := charsOf rest
      (Char.ofNat (0x10000 + (n - 0xD800) * 1024 + (m - 0xDC00)) :: text, waits)
    else
      let (text, waits) := charsOf (m :: rest)
      ((if Utf16.isHigh n || Utf16.isLow n then lone else Char.ofNat n) :: text, waits)

/-- What digits behind a plus sign, and the bytes behind these, are. -/
def section64 (digits : Text) (after : List UInt8) : Front :=
  let n := digits.foldl (fun n c => n * 64 + digitValue c) 0
  let bits := 6 * digits.length
  let spare := bits % 16
  let (text, waits) := charsOf (unitsOf n bits)
  let padded := decide (n % Nat.pow 2 spare ≠ 0)
  match after with
  | [] =>
    if waits || 6 ≤ spare || padded then
      .malformed digits.length "unterminated shift sequence".toList
    else .text text digits.length
  | b :: _ =>
    if 6 ≤ spare then
      .malformed (digits.length + 1) "partial character in shift sequence".toList
    else if padded then
      .malformed (digits.length + 1) "non-zero padding bits in shift sequence".toList
    else
      let direct := b.toNat < 0x80 && b != 0x2B
      .text (text ++ if waits && direct then [lone] else [])
        (if b = 0x2D then digits.length + 1 else digits.length)

def front (b : UInt8) (rest : List UInt8) : Front :=
  if 0x80 ≤ b.toNat then .malformed 0 "unexpected special character".toList
  else if b != 0x2B then .char (Char.ofNat b.toNat) 0
  else
    let digits := (rest.takeWhile fun b => isDigit64 (Char.ofNat b.toNat)).map fun b =>
      Char.ofNat b.toNat
    match rest.drop digits.length with
    | [] => section64 digits []
    | b :: after =>
      if !digits.isEmpty then section64 digits (b :: after)
      else if b = 0x2D then .char '+' 1
      else .malformed 1 "ill-formed sequence".toList

end SchemeCheck.Encoding.Utf7

import SchemeCheck.Encoding.Objection

/-!
# SchemeCheck.Encoding.Punycode

Punycode.  A text is written as its ASCII characters, a hyphen, and numbers that
tell where the others are to be put in: counted over all places and characters
in order, each from the one before.  Digits are letters and decimal digits; the
value of each place adapts to the size of the numbers so far.
-/

namespace SchemeCheck.Encoding.Punycode

/-- The first character that is not ASCII. -/
def firstExtended : Nat := 0x80

/-- How far the digits at a place may go without another digit behind them. -/
def threshold (place bias : Nat) : Nat :=
  let n : Int := 36 * (place + 1) - bias
  if n < 1 then 1 else if 26 < n then 26 else n.toNat

/-- Reduce a difference by the factor 35 until it is small, counting the steps. -/
def reduce (steps delta : Nat) : Nat × Nat :=
  if h : 455 < delta then reduce (steps + 1) (delta / 35) else (steps, delta)
termination_by delta
decreasing_by exact Nat.div_lt_self (Nat.lt_of_le_of_lt (Nat.zero_le _) h) (by decide)

/-- The bias behind a number, where `count` characters are known. -/
def adapted (delta : Nat) (first : Bool) (count : Nat) : Nat :=
  let delta := if first then delta / 700 else delta / 2
  let (steps, delta) := reduce 0 (delta + delta / count)
  36 * steps + 36 * delta / (delta + 38)

/-! ## Writing -/

def digit (n : Nat) : Char :=
  if n < 26 then Char.ofNat (97 + n) else Char.ofNat (48 + (n - 26))

/-- The digits of a number from a place on; the number itself bounds their count. -/
def digits (bias : Nat) : Nat → Nat → Nat → Text
  | 0, _, _ => []
  | fuel + 1, place, n =>
    let t := threshold place bias
    if n < t then [digit n]
    else digit (t + (n - t) % (36 - t)) :: digits bias fuel (place + 1) ((n - t) / (36 - t))

/-- What is known while numbers are written. -/
structure Progress where
  /-- The number so far. -/
  delta : Nat := 0
  /-- The character from which on is counted. -/
  next : Nat := firstExtended
  /-- How many characters are known. -/
  count : Nat
  bias : Nat := 72
  first : Bool := true
  written : Text := []

/-- Write the places of a character. -/
def Progress.place (text : Text) (progress : Progress) (n : Nat) : Progress :=
  let start := { progress with
    delta := progress.delta + (n - progress.next) * (progress.count + 1) }
  let behind := text.foldl (fun (progress : Progress) c =>
    if c.toNat < n then { progress with delta := progress.delta + 1 }
    else if c.toNat = n then
      { progress with
        delta := 0
        count := progress.count + 1
        bias := adapted progress.delta progress.first (progress.count + 1)
        first := false
        written := progress.written ++ digits progress.bias (progress.delta + 1) 0 progress.delta }
    else progress) start
  { behind with delta := behind.delta + 1, next := n + 1 }

def encode (text : Text) : Text :=
  let base := text.filter fun c => c.toNat < firstExtended
  let extended := ((text.map Char.toNat).filter fun n => decide (firstExtended ≤ n)).eraseDups
  let ordered := extended.mergeSort fun a b => decide (a ≤ b)
  let progress := ordered.foldl (Progress.place text) { count := base.length }
  (if base.isEmpty then [] else base ++ ['-']) ++ progress.written

/-! ## Reading -/

/-- The value of a digit, a capital letter or a decimal digit. -/
def digitValue? (c : Char) : Option Nat :=
  if 'A' ≤ c ∧ c ≤ 'Z' then some (c.toNat - 65)
  else if '0' ≤ c ∧ c ≤ '9' then some (c.toNat - 22)
  else none

/-- Read a number from a place on, whose digits have the value `weight`. -/
def readNumber (bias : Nat) : Nat → Nat → Nat → Text → Except Objection (Nat × Text)
  | _, _, _, [] => .error .incompleteNumber
  | place, weight, n, c :: rest =>
    match digitValue? c with
    | none => .error (.noDigit c)
    | some value =>
      let t := threshold place bias
      let n := n + value * weight
      if value < t then .ok (n, rest) else readNumber bias (place + 1) (weight * (36 - t)) n rest

/-- Put in the characters that numbers tell; their digits bound their count. -/
def insertAll : Nat → Bool → Nat → Nat → Nat → Text → Text → Except Objection Text
  | 0, _, _, _, _, text, _ => .ok text
  | _ + 1, _, _, _, _, text, [] => .ok text
  | fuel + 1, first, next, place, bias, text, more => do
    let (delta, rest) ← readNumber bias 0 1 0 more
    let place := place + delta
    let next := next + place / (text.length + 1)
    if 0x110000 ≤ next then throw (.noCharacter next)
    let place := place % (text.length + 1)
    let text := text.take place ++ Char.ofNat next :: text.drop place
    insertAll fuel false next (place + 1) (adapted delta first text.length) text rest

/-- The text behind a written form, in two parts: the ASCII characters in front
of the last hyphen, and the numbers behind it. -/
def decode (base numbers : Text) : Except Objection Text :=
  insertAll (numbers.length + 1) true firstExtended 0 72 base (numbers.map Char.toUpper)

end SchemeCheck.Encoding.Punycode

import SchemeCheck.Number.Binary64
import SchemeCheck.Text.Basic

/-!
# SchemeCheck.Number.Shortest

The decimal text of a binary floating-point number: the fewest digits that
read back as the number, of those the nearest to it.

A number `m * 2 ^ e` is read back from every real between the midpoints to its
two neighbours (midpoints included iff `m` is even).  For each count of digits
the number has two neighbours on the decimal grid; the first count for which
one of them lies in that interval decides.  All comparisons are between whole
numbers.
-/

namespace SchemeCheck.Binary64

/-- A positive number as the bounds of the interval that reads back as it, in
units of `2 ^ power`. -/
structure Interval where
  /-- Four times the mantissa, the number itself. -/
  value : Nat
  /-- The midpoint below. -/
  low : Nat
  /-- The midpoint above. -/
  high : Nat
  /-- Whether the midpoints read back as the number. -/
  closed : Bool
  /-- The unit is two to this power. -/
  power : Int

/-- The interval of `mantissa * 2 ^ exponent`.  Below a power of two the
numbers lie twice as dense. -/
def interval (mantissa : Nat) (exponent : Int) : Interval where
  value := 4 * mantissa
  low := if mantissa = Nat.pow 2 52 ∧ -1074 < exponent then 4 * mantissa - 1
    else 4 * mantissa - 2
  high := 4 * mantissa + 2
  closed := mantissa % 2 = 0
  power := exponent - 2

/-- What `n` units of an interval and one step `10 ^ place` of the decimal grid
measure on a scale on which both are whole. -/
def Interval.scales (i : Interval) (place : Int) : Nat × Nat :=
  (Nat.pow 2 i.power.toNat * Nat.pow 10 (-place).toNat,
    Nat.pow 2 (-i.power).toNat * Nat.pow 10 place.toNat)

/-- The number of digits before the decimal point: the least `p` for which the
number is below `10 ^ p`. -/
def Interval.point (i : Interval) : Int :=
  let places : List Int := (List.range 640).map (fun (k : Nat) => (k : Int) - 325)
  (places.find? fun p =>
    let (unit, step) := i.scales p
    decide (i.value * unit < step)).getD 0

/-- The neighbour on the grid of step `10 ^ place` that reads back as the
number, the nearer one if both do; an exact tie goes to the even one. -/
def Interval.onGrid? (i : Interval) (place : Int) : Option Nat :=
  let (unit, step) := i.scales place
  let value := i.value * unit
  let within (n : Nat) : Bool :=
    if i.closed then decide (i.low * unit ≤ n * step) && decide (n * step ≤ i.high * unit)
    else decide (i.low * unit < n * step) && decide (n * step < i.high * unit)
  let below := value / step
  let above := below + 1
  match within below, within above with
  | true, true =>
    let down := value - below * step
    let up := above * step - value
    if down < up || (down = up && below % 2 = 0) then some below else some above
  | true, false => some below
  | false, true => some above
  | false, false => none

/-- The shortest digits, without zeros at their end, and the place of the
decimal point counted from their start. -/
def shortestDigits (mantissa : Nat) (exponent : Int) : Text × Int :=
  let i := interval mantissa exponent
  let point := i.point
  let counts := (List.range 17).map (· + 1)
  match counts.findSome? fun (n : Nat) => (i.onGrid? (point - n)).map (fun digits => (n, digits)) with
  | some (n, digits) =>
    let text := Text.ofNat digits
    ((text.reverse.dropWhile (· = '0')).reverse, point + (text.length : Int) - n)
  | none => (['0'], 1)

/-- The text of a positive finite number: positional with at least one decimal
when the point lies between the fourth place before and the sixteenth place
after the start of the digits, in exponent form with at least two digits of
exponent otherwise. -/
def magnitudeText (mantissa : Nat) (exponent : Int) : Text :=
  if mantissa = 0 then "0.0".toList
  else
    let (digits, point) := shortestDigits mantissa exponent
    if -4 < point ∧ point ≤ 16 then
      if point ≤ 0 then
        '0' :: '.' :: (List.replicate (-point).toNat '0' ++ digits)
      else
        let whole := digits.take point.toNat
        let fraction := digits.drop point.toNat
        whole ++ List.replicate (point.toNat - whole.length) '0' ++
          '.' :: (if fraction.isEmpty then ['0'] else fraction)
    else
      let power := point - 1
      let fraction := digits.drop 1
      digits.take 1 ++ (if fraction.isEmpty then [] else '.' :: fraction) ++
        'e' :: (if power < 0 then '-' else '+') :: Text.padFront 2 '0' (Text.ofNat power.natAbs)

def text : Binary64 → Text
  | nan => "nan".toList
  | infinite negative => if negative then "-inf".toList else "inf".toList
  | finite negative mantissa exponent =>
    (if negative then ['-'] else []) ++ magnitudeText mantissa exponent

end SchemeCheck.Binary64

/-!
# SchemeCheck.Number.Binary64

Binary floating-point numbers of 64 bits as exact values: a sign, a whole
mantissa and a power of two.  Validation and printing decide everything about
them in whole numbers.
-/

namespace SchemeCheck

/-- A binary floating-point number. -/
inductive Binary64 where
  | nan
  | infinite (negative : Bool)
  /-- The number `± mantissa * 2 ^ exponent`. -/
  | finite (negative : Bool) (mantissa : Nat) (exponent : Int)
  deriving DecidableEq

namespace Binary64

/-- The number that 64 bits encode: one bit of sign, 11 of exponent and 52 of
fraction, with a hidden leading one unless the exponent bits are all zero. -/
def ofBits (bits : UInt64) : Binary64 :=
  let n : Nat := bits.toNat
  let negative := decide (Nat.pow 2 63 ≤ n)
  let exponentBits : Nat := n / Nat.pow 2 52 % Nat.pow 2 11
  let fraction : Nat := n % Nat.pow 2 52
  if exponentBits = 2047 then
    if fraction = 0 then infinite negative else nan
  else if exponentBits = 0 then
    finite negative fraction (-1074)
  else
    finite negative (Nat.pow 2 52 + fraction) ((exponentBits : Int) - 1075)

/-- The whole number that a finite number is, if it is one. -/
def toInt? : Binary64 → Option Int
  | finite negative mantissa exponent =>
    let magnitude? : Option Nat :=
      if 0 ≤ exponent then some (mantissa * Nat.pow 2 exponent.toNat)
      else
        let unit := Nat.pow 2 (-exponent).toNat
        if mantissa % unit = 0 then some (mantissa / unit) else none
    magnitude?.map fun magnitude => if negative then -(magnitude : Int) else magnitude
  | _ => none

def isZero : Binary64 → Bool
  | finite _ mantissa _ => mantissa = 0
  | _ => false

end Binary64

end SchemeCheck

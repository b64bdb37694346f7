import SchemeCheck.Text.Basic

/-!
# SchemeCheck.Encoding.Base64

Bytes written with 64 characters, three bytes by four characters, in lines of
76 characters.
-/

namespace SchemeCheck.Base64

def digit (n : Nat) : Char :=
  if n < 26 then Char.ofNat (65 + n)
  else if n < 52 then Char.ofNat (97 + (n - 26))
  else if n < 62 then Char.ofNat (48 + (n - 52))
  else if n = 62 then '+'
  else '/'

/-- The characters for bytes, filled up with `=` to whole groups of four. -/
def encode : List UInt8 → Text
  | a :: b :: c :: rest =>
    let n := a.toNat * 65536 + b.toNat * 256 + c.toNat
    digit (n / 262144) :: digit (n / 4096 % 64) :: digit (n / 64 % 64) :: digit (n % 64) ::
      encode rest
  | [a, b] =>
    let n := a.toNat * 65536 + b.toNat * 256
    [digit (n / 262144), digit (n / 4096 % 64), digit (n / 64 % 64), '=']
  | [a] =>
    let n := a.toNat * 65536
    [digit (n / 262144), digit (n / 4096 % 64), '=', '=']
  | [] => []

/-- The bytes in rows of at most 57, each of which fills one line. -/
def rowsOf : Nat → List UInt8 → List (List UInt8)
  | _, [] => []
  | 0, bytes => [bytes]
  | fuel + 1, bytes => bytes.take 57 :: rowsOf fuel (bytes.drop 57)

/-- The lines of 76 characters that hold the bytes. -/
def lines (bytes : List UInt8) : List Text :=
  (rowsOf bytes.length bytes).map encode

end SchemeCheck.Base64

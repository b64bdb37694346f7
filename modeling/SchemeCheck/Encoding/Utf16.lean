import SchemeCheck.Encoding.Scan

/-!
# SchemeCheck.Encoding.Utf16

UTF-16 and UTF-32: units of two or four bytes, in either byte order.  In
UTF-16 a character above U+FFFF is a pair of surrogate units; in UTF-32 every
character is one unit.
-/

namespace SchemeCheck.Encoding

/-- Which byte of a unit comes first. -/
inductive ByteOrder where
  | little
  | big
  deriving DecidableEq

namespace ByteOrder

/-- The bytes of a unit of `size` bytes. -/
def bytesOf (order : ByteOrder) (size n : Nat) : List UInt8 :=
  let lowestFirst := (List.range size).map fun i => UInt8.ofNat (n / Nat.pow 256 i % 256)
  match order with
  | .little => lowestFirst
  | .big => lowestFirst.reverse

/-- The unit that bytes spell. -/
def valueOf (order : ByteOrder) (bytes : List UInt8) : Nat :=
  match order with
  | .little => bytes.foldr (fun b n => n * 256 + b.toNat) 0
  | .big => bytes.foldl (fun n b => n * 256 + b.toNat) 0

end ByteOrder

/-- The mark that starts a text whose byte order is not agreed on. -/
def orderMark : Nat := 0xFEFF

namespace Utf16

def encodeChar (order : ByteOrder) (c : Char) : List UInt8 :=
  let n := c.toNat
  if n < 0x10000 then order.bytesOf 2 n
  else
    order.bytesOf 2 (0xD800 + (n - 0x10000) / 1024) ++ order.bytesOf 2 (0xDC00 + n % 1024)

def isHigh (n : Nat) : Bool :=
  0xD800 ≤ n && n < 0xDC00

def isLow (n : Nat) : Bool :=
  0xDC00 ≤ n && n < 0xE000

/-- What stands at the front of UTF-16 bytes. -/
def front (order : ByteOrder) (first : UInt8) (rest : List UInt8) : Front :=
  match rest with
  | [] => .malformed 0 "truncated data".toList
  | second :: rest =>
    let n := order.valueOf [first, second]
    if isLow n then .malformed 1 "illegal encoding".toList
    else if !isHigh n then .char (Char.ofNat n) 1
    else
      match rest with
      | third :: fourth :: _ =>
        let m := order.valueOf [third, fourth]
        if isLow m then
          .char (Char.ofNat (0x10000 + (n - 0xD800) * 1024 + (m - 0xDC00))) 3
        else .malformed 1 "illegal UTF-16 surrogate".toList
      | _ => .malformed (1 + rest.length) "unexpected end of data".toList

end Utf16

namespace Utf32

/-- What stands at the front of UTF-32 bytes. -/
def front (order : ByteOrder) (first : UInt8) (rest : List UInt8) : Front :=
  if rest.length < 3 then .malformed rest.length "truncated data".toList
  else
    let n := order.valueOf (first :: rest.take 3)
    if 0xD800 ≤ n ∧ n < 0xE000 then
      .malformed 3 "code point in surrogate code point range(0xd800, 0xe000)".toList
    else if 0x110000 ≤ n then .malformed 3 "code point not in range(0x110000)".toList
    else .char (Char.ofNat n) 3

end Utf32

end SchemeCheck.Encoding

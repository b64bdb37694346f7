import SchemeCheck.Encoding.Scan

/-!
# SchemeCheck.Encoding.Utf8

UTF-8.  A character is a lead byte and up to three continuation bytes of six
bits each.  The first continuation byte is held to a narrower range after some
leads, so that no character has a longer spelling than needed, none is a
surrogate and none lies above U+10FFFF.
-/

namespace SchemeCheck.Encoding.Utf8

/-! ## Writing -/

/-- The continuation byte of the six lowest bits. -/
def continuation (n : Nat) : UInt8 :=
  UInt8.ofNat (0x80 + n % 64)

def encodeChar (c : Char) : List UInt8 :=
  let n := c.toNat
  if n < 0x80 then [UInt8.ofNat n]
  else if n < 0x800 then [UInt8.ofNat (0xC0 + n / 64), continuation n]
  else if n < 0x10000 then
    [UInt8.ofNat (0xE0 + n / 4096), continuation (n / 64), continuation n]
  else
    [UInt8.ofNat (0xF0 + n / 262144), continuation (n / 4096), continuation (n / 64),
      continuation n]

def encode (text : Text) : List UInt8 :=
  text.flatMap encodeChar

/-- The bytes that a capture was read from. -/
def encodeCapture (capture : Capture) : List UInt8 :=
  capture.flatMap fun
    | .char c => encodeChar c
    | .byte b => [b]

/-! ## Reading -/

/-- Read `count` continuation bytes, of which the first lies between `low` and
`high`.  `value` holds the bits so far, `seen` the bytes after the lead. -/
def continued : Nat → Nat → Nat → Nat → Nat → List UInt8 → Front
  | 0, _, _, value, seen, _ => .char (Char.ofNat value) seen
  | _ + 1, _, _, _, seen, [] => .malformed seen "unexpected end of data".toList
  | count + 1, low, high, value, seen, b :: rest =>
    if low ≤ b.toNat ∧ b.toNat ≤ high then
      continued count 0x80 0xBF (value * 64 + b.toNat % 64) (seen + 1) rest
    else .malformed seen "invalid continuation byte".toList

def front (lead : UInt8) (rest : List UInt8) : Front :=
  let n := lead.toNat
  if n < 0x80 then .char (Char.ofNat n) 0
  else if n < 0xC2 then .malformed 0 "invalid start byte".toList
  else if n < 0xE0 then continued 1 0x80 0xBF (n - 0xC0) 0 rest
  else if n = 0xE0 then continued 2 0xA0 0xBF 0 0 rest
  else if n = 0xED then continued 2 0x80 0x9F 0xD 0 rest
  else if n < 0xF0 then continued 2 0x80 0xBF (n - 0xE0) 0 rest
  else if n = 0xF0 then continued 3 0x90 0xBF 0 0 rest
  else if n < 0xF4 then continued 3 0x80 0xBF (n - 0xF0) 0 rest
  else if n = 0xF4 then continued 3 0x80 0x8F 4 0 rest
  else .malformed 0 "invalid start byte".toList

end SchemeCheck.Encoding.Utf8

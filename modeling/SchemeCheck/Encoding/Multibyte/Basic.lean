import SchemeCheck.Encoding.Grid
import SchemeCheck.Encoding.Scan

/-!
# SchemeCheck.Encoding.Multibyte.Basic

What the encodings with one and more bytes a character have in common: how
their bytes are read from the front, how a text is written, and how the cells
of a grid of 94 columns are written as two bytes.
-/

namespace SchemeCheck.Encoding.Multibyte

/-! ## Reading -/

def illegal : Text := "illegal multibyte sequence".toList

def incomplete : Text := "incomplete multibyte sequence".toList

/-- What stands at the front of bytes where a lead byte needs `count` more: what
`text?` makes of them all. -/
def withMore (count : Nat) (rest : List UInt8) (text? : List UInt8 → Option Text) : Front :=
  if rest.length < count then .malformed rest.length incomplete
  else
    match text? (rest.take count) with
    | some text => .text text count
    | none => .malformed 0 illegal

/-- The same where it needs one more. -/
def withNext (rest : List UInt8) (char? : UInt8 → Option Char) : Front :=
  withMore 1 rest fun
    | [b] => (char? b).map fun c => [c]
    | _ => none

/-! ## Writing -/

/-- How an encoding writes characters. -/
structure Writer where
  bytes? : Char → Option (List UInt8)
  /-- The bytes of two characters that are written as one. -/
  pair? : Char → Char → Option (List UInt8) := fun _ _ => none

/-- Write a text; it ends at a character that cannot be written, which is told
with its position. -/
def Writer.write (writer : Writer) : Nat → List UInt8 → Text → Except (Nat × Char) (List UInt8)
  | _, written, [] => .ok written.reverse
  | position, written, [c] => single position written c
  | position, written, c :: d :: rest =>
    match writer.pair? c d with
    | some bytes => writer.write (position + 2) (bytes.reverse ++ written) rest
    | none =>
      match writer.bytes? c with
      | some bytes => writer.write (position + 1) (bytes.reverse ++ written) (d :: rest)
      | none => .error (position, c)
where
  single (position : Nat) (written : List UInt8) (c : Char) :
      Except (Nat × Char) (List UInt8) :=
    match writer.bytes? c with
    | some bytes => .ok (written.reverse ++ bytes)
    | none => .error (position, c)

/-! ## Cells -/

/-- How many cells a row of a square grid has. -/
def rowSize : Nat := 94

/-- The cell that two bytes spell, where the first cell of a row and the first
row are spelled with the byte `base`. -/
def cellOf? (base : Nat) (a b : UInt8) : Option Nat :=
  let row := a.toNat - base
  let column := b.toNat - base
  if base ≤ a.toNat ∧ row < rowSize ∧ base ≤ b.toNat ∧ column < rowSize then
    some (row * rowSize + column)
  else none

def cellBytes (base i : Nat) : List UInt8 :=
  [UInt8.ofNat (base + i / rowSize), UInt8.ofNat (base + i % rowSize)]

/-- The first byte that spells rows and columns beside ASCII. -/
def upperBase : Nat := 0xA1

/-- The first byte that spells rows and columns in seven bits. -/
def lowerBase : Nat := 0x21

def asciiByte? (c : Char) : Option (List UInt8) :=
  if c.toNat < 0x80 then some [UInt8.ofNat c.toNat] else none

end SchemeCheck.Encoding.Multibyte

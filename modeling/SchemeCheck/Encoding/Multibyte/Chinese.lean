import SchemeCheck.Encoding.Grid.Chinese
import SchemeCheck.Encoding.Multibyte.Basic

/-!
# SchemeCheck.Encoding.Multibyte.Chinese

The encodings of mainland China.  GBK has room for 126 rows of 190 characters;
GB 2312 is a square in its lower right.  GB 18030 fills what GBK leaves free, and
writes every character that has no two bytes with four.
-/

namespace SchemeCheck.Encoding.Multibyte

/-! ## The cells of GBK -/

/-- How many cells a row of GBK has. -/
def chineseRowSize : Nat := 190

def chineseCell? (a b : UInt8) : Option Nat :=
  let lead := a.toNat
  let trail := b.toNat
  if 0x81 ≤ lead ∧ lead ≤ 0xFE ∧ 0x40 ≤ trail ∧ trail ≤ 0xFE ∧ trail ≠ 0x7F then
    some ((lead - 0x81) * chineseRowSize + (trail - 0x40 - (if 0x7F < trail then 1 else 0)))
  else none

def chineseBytes (i : Nat) : List UInt8 :=
  let column := i % chineseRowSize + 0x40
  [UInt8.ofNat (0x81 + i / chineseRowSize),
    UInt8.ofNat (if column < 0x7F then column else column + 1)]

def rowColumn (i : Nat) : Nat × Nat :=
  (i / chineseRowSize, i % chineseRowSize)

/-- The column of the second byte 0xA1. -/
def upperColumn : Nat := 96

/-! ## GB 2312 -/

/-- The characters in the square of GB 2312 that it does not have. -/
def addedByGbk : Text := "ⅰⅱⅲⅳⅴⅵⅶⅷⅸⅹ︵︶︹︺︿﹀︽︾﹁﹂﹃﹄︻︼︷︸︱︳︴ɑńňɡ".toList

/-- The characters of GB 2312 that GBK replaced, with what it put there. -/
def replacedByGbk : List (Char × Char) :=
  [('・', '·'), ('―', '—')]

def gb2312Char? (a b : UInt8) : Option Char :=
  if 0xA1 ≤ a.toNat ∧ a.toNat ≤ 0xF7 ∧ 0xA1 ≤ b.toNat then
    (((chineseCell? a b).bind Grid.chinese.char?).filter fun c => !addedByGbk.contains c).map
      fun c => ((replacedByGbk.find? fun entry => entry.2 = c).map Prod.fst).getD c
  else none

def gb2312Bytes? (c : Char) : Option (List UInt8) :=
  let known := (replacedByGbk.lookup c).getD c
  if addedByGbk.contains c || (replacedByGbk.any fun entry => entry.2 = c) then none
  else
    ((Grid.chinese.place? known).filter fun i =>
      let (row, column) := rowColumn i
      decide (0xA1 ≤ row + 0x81) && decide (row + 0x81 ≤ 0xF7) && decide (upperColumn ≤ column)).map
        chineseBytes

def gb2312Front (b : UInt8) (rest : List UInt8) : Front :=
  if b.toNat < 0x80 then .char (Char.ofNat b.toNat) 0 else withNext rest (gb2312Char? b)

def gb2312Writer : Writer where
  bytes? := fun c => asciiByte? c <|> gb2312Bytes? c

/-! ## GBK -/

def gbkFront (b : UInt8) (rest : List UInt8) : Front :=
  if b.toNat < 0x80 then .char (Char.ofNat b.toNat) 0
  else withNext rest fun next => (chineseCell? b next).bind Grid.chinese.char?

def gbkWriter : Writer where
  bytes? := fun c => asciiByte? c <|> (Grid.chinese.place? c).map chineseBytes

/-! ## GB 18030 -/

/-- The private character of a cell in the three areas that users may fill. -/
def userChar? (i : Nat) : Option Char :=
  let (row, column) := rowColumn i
  let lead := row + 0x81
  if upperColumn ≤ column ∧ 0xAA ≤ lead ∧ lead ≤ 0xAF then
    some (Char.ofNat (0xE000 + (lead - 0xAA) * 94 + (column - upperColumn)))
  else if upperColumn ≤ column ∧ 0xF8 ≤ lead then
    some (Char.ofNat (0xE234 + (lead - 0xF8) * 94 + (column - upperColumn)))
  else if column < upperColumn ∧ 0xA1 ≤ lead ∧ lead ≤ 0xA7 then
    some (Char.ofNat (0xE4C6 + (lead - 0xA1) * 96 + column))
  else none

/-- Characters that moved into vacant cells, which GBK leaves free and users may
not fill: rows of them, each with the place of the first among these cells. -/
def settlers : List (Nat × String) :=
  [(6, "€"), (98, "ǹ"), (129, "〾⿰⿱⿲⿳⿴⿵⿶⿷⿸⿹⿺⿻"), (175, "⺁"), (179, "⺄㑳㑇⺈⺋"),
   (185, "㖞㘚㘎⺌⺗㥮㤘"), (193, "㧏㧟㩳㧐"), (199, "㭎㱮㳠⺧"), (205, "⺪䁖䅟⺮䌷⺳⺶⺷"),
   (214, "䎱䎬⺻䏝䓖䙡䙌"), (222, "䜣䜩䝼䞍⻊䥇䥺䥽䦂䦃䦅䦆䦟䦛䦷䦶"), (240, "䲣䲟䲠䲡䱷䲢䴓䴔䴕䴖䴗䴘䴙䶮")]

/-- The character of the vacant cell with the given place. -/
def vacantChar (place : Nat) : Char :=
  (settlers.findSome? fun (start, row) =>
    if start ≤ place then row.toList[place - start]? else none).getD (Char.ofNat (0xE766 + place))

/-- The characters of GB 18030 with two bytes, cell by cell. -/
def twoByteChars : Array Char :=
  (((List.range (126 * chineseRowSize)).foldl (fun (done, vacant) i =>
      match Grid.chinese.char? i <|> userChar? i with
      | some c => (c :: done, vacant)
      | none => (vacantChar vacant :: done, vacant + 1))
    (([], 0) : List Char × Nat)).1.reverse).toArray

/-- How many characters below the given number have four bytes; above U+FFFF all
have, and are counted apart. -/
def fourByteRank (n : Nat) : Nat :=
  let surrogates := if 0xE000 ≤ n then 0x800 else if 0xD800 ≤ n then n - 0xD800 else 0
  let shorter := twoByteChars.foldl (fun count c => if c.toNat < n then count + 1 else count) 0
  n - 0x80 - surrogates - shorter

/-- The four bytes with the given rank. -/
def fourBytes (rank : Nat) : List UInt8 :=
  [UInt8.ofNat (0x81 + rank / 12600), UInt8.ofNat (0x30 + rank / 1260 % 10),
    UInt8.ofNat (0x81 + rank / 10 % 126), UInt8.ofNat (0x30 + rank % 10)]

/-- The rank of the first character above U+FFFF. -/
def supplementaryRank : Nat := 189000

/-- The number of characters with four bytes up to U+FFFF. -/
def basicCount : Nat := 39420

/-- The least number in a range of `size` numbers from `low` on that more than
`rank` four-byte characters are below or equal to, by halving. -/
def bisect (rank : Nat) : Nat → Nat → Nat → Nat
  | 0, low, _ => low
  | fuel + 1, low, size =>
    if size ≤ 1 then low
    else
      let half := size / 2
      if fourByteRank (low + half) ≤ rank then bisect rank fuel (low + half) (size - half)
      else bisect rank fuel low half

/-- The character with a rank. -/
def fourByteChar? (rank : Nat) : Option Char :=
  if rank < basicCount then some (Char.ofNat (bisect rank 17 0x80 (0x10000 - 0x80)))
  else if supplementaryRank ≤ rank ∧ rank - supplementaryRank < 0x100000 then
    some (Char.ofNat (0x10000 + (rank - supplementaryRank)))
  else none

/-- The character of four bytes. -/
def fourByteText? (a b c d : UInt8) : Option Text :=
  if 0x81 ≤ a.toNat ∧ a.toNat ≤ 0xFE ∧ 0x81 ≤ c.toNat ∧ c.toNat ≤ 0xFE ∧
      0x30 ≤ d.toNat ∧ d.toNat ≤ 0x39 then
    (fourByteChar?
      ((((a.toNat - 0x81) * 10 + (b.toNat - 0x30)) * 126 + (c.toNat - 0x81)) * 10 +
        (d.toNat - 0x30))).map fun c => [c]
  else none

def gb18030Front (b : UInt8) (rest : List UInt8) : Front :=
  if b.toNat < 0x80 then .char (Char.ofNat b.toNat) 0
  else
    match rest.head? with
    | some next =>
      if 0x30 ≤ next.toNat ∧ next.toNat ≤ 0x39 then
        withMore 3 rest fun
          | [second, third, fourth] => fourByteText? b second third fourth
          | _ => none
      else
        withNext rest fun next =>
          (chineseCell? b next).bind fun i => twoByteChars[i]?
    | none => .malformed 0 incomplete

def gb18030Writer : Writer where
  bytes? := fun c =>
    match asciiByte? c, twoByteChars.idxOf? c with
    | some bytes, _ => some bytes
    | none, some i => some (chineseBytes i)
    | none, none =>
      some (fourBytes (if c.toNat < 0x10000 then fourByteRank c.toNat
        else supplementaryRank + (c.toNat - 0x10000)))

end SchemeCheck.Encoding.Multibyte

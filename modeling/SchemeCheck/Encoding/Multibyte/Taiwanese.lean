import SchemeCheck.Encoding.Grid.HongKong
import SchemeCheck.Encoding.Grid.Taiwanese
import SchemeCheck.Encoding.Multibyte.Basic

/-!
# SchemeCheck.Encoding.Multibyte.Taiwanese

The encodings of Taiwan and Hong Kong.  Big5 has rows of 157 characters.  Windows
changes some marks and adds a few characters; Hong Kong adds rows below and
above, and fills one region anew.
-/

namespace SchemeCheck.Encoding.Multibyte

/-! ## The cells of Big5 -/

/-- How many cells a row of Big5 has. -/
def bigRowSize : Nat := 157

/-- The cell that two bytes spell, where `base` is the lead byte of the first
row. -/
def bigCell? (base : Nat) (a b : UInt8) : Option Nat :=
  let lead := a.toNat
  let trail := b.toNat
  if lead < base ∨ 0xFE < lead then none
  else if 0x40 ≤ trail ∧ trail ≤ 0x7E then some ((lead - base) * bigRowSize + (trail - 0x40))
  else if 0xA1 ≤ trail ∧ trail ≤ 0xFE then
    some ((lead - base) * bigRowSize + (trail - 0xA1 + 63))
  else none

def bigBytes (base i : Nat) : List UInt8 :=
  let column := i % bigRowSize
  [UInt8.ofNat (base + i / bigRowSize),
    UInt8.ofNat (if column < 63 then column + 0x40 else column - 63 + 0xA1)]

/-- The lead byte of the first row of Big5. -/
def taiwaneseBase : Nat := 0xA1

/-! ## Big5 -/

def big5Char? (a b : UInt8) : Option Char :=
  (bigCell? taiwaneseBase a b).bind Grid.taiwanese.char?

/-- The bytes of a character in Big5: the last ones, if it stands there twice. -/
def big5Bytes? (c : Char) : Option (List UInt8) :=
  (Grid.taiwanese.lastPlace? c).map (bigBytes taiwaneseBase)

def big5Front (b : UInt8) (rest : List UInt8) : Front :=
  if b.toNat < 0x80 then .char (Char.ofNat b.toNat) 0 else withNext rest (big5Char? b)

def big5Writer : Writer where
  bytes? := fun c => asciiByte? c <|> big5Bytes? c

/-! ## The Big5 of Windows -/

/-- The cells that hold another character than in Big5. -/
def changedCells : List (List UInt8 × Char) :=
  [([0xA1, 0x45], '‧'), ([0xA1, 0x4E], '﹑'), ([0xA1, 0xC2], '¯'), ([0xA1, 0xE3], '～'),
   ([0xA1, 0xF2], '⊕'), ([0xA1, 0xF3], '⊙'), ([0xA2, 0x41], '∕'), ([0xA2, 0x42], '﹨'),
   ([0xA2, 0x44], '￥'), ([0xA2, 0x46], '￠'), ([0xA2, 0x47], '￡'), ([0xA3, 0xE1], '€')]

/-- The characters that Windows adds in a row. -/
def addedRow : Text := "碁銹裏墻恒粧嫺╔╦╗╠╬╣╚╩╝╒╤╕╞╪╡╘╧╛╓╥╖╟╫╢╙╨╜║═╭╮╰╯▓".toList

def addedLead : UInt8 := 0xF9

/-- The second byte of the first character of the added row. -/
def addedTrail : Nat := 0xD6

def windows950Char? (a b : UInt8) : Option Char :=
  changedCells.lookup [a, b] <|>
    (if a = addedLead ∧ addedTrail ≤ b.toNat then addedRow[b.toNat - addedTrail]? else none) <|>
    big5Char? a b

/-- The bytes of a character in the Big5 of Windows.  A character of Big5 that
others took the place of is written in its other cell, or in its old one. -/
def windows950Bytes? (c : Char) : Option (List UInt8) :=
  match big5Bytes? c with
  | some bytes =>
    if (changedCells.lookup bytes).isSome then
      (Grid.taiwanese.place? c).map (bigBytes taiwaneseBase)
    else some bytes
  | none =>
    (changedCells.find? fun cell => cell.2 = c).map Prod.fst <|>
      (addedRow.idxOf? c).map fun i => [addedLead, UInt8.ofNat (addedTrail + i)]

def windows950Front (b : UInt8) (rest : List UInt8) : Front :=
  if b.toNat < 0x80 then .char (Char.ofNat b.toNat) 0 else withNext rest (windows950Char? b)

def windows950Writer : Writer where
  bytes? := fun c => asciiByte? c <|> windows950Bytes? c

/-! ## The Big5 of Hong Kong -/

/-- The lead byte of the first row of Hong Kong. -/
def hongKongBase : Nat := 0x87

/-- Whether two bytes lie in the region that Hong Kong fills anew. -/
def isRefilled (a b : UInt8) : Bool :=
  a = 0xC7 || a = 0xC8 || (a = 0xC6 && 0xA1 ≤ b.toNat)

/-- The second bytes behind 0x88 that spell two characters. -/
def composedTrails : List (UInt8 × Char × Char) :=
  [(0x62, 'Ê', '\u0304'), (0x64, 'Ê', '\u030c'), (0xA3, 'ê', '\u0304'), (0xA5, 'ê', '\u030c')]

def composedLead : UInt8 := 0x88

def hongKongText? (a b : UInt8) : Option Text :=
  match (if a = composedLead then composedTrails.lookup b else none) with
  | some (c, d) => some [c, d]
  | none =>
    ((if isRefilled a b then none else big5Char? a b) <|>
      (bigCell? hongKongBase a b).bind Grid.hongKong.char?).map fun c => [c]

def hongKongFront (b : UInt8) (rest : List UInt8) : Front :=
  if b.toNat < 0x80 then .char (Char.ofNat b.toNat) 0
  else
    withMore 1 rest fun
      | [next] => hongKongText? b next
      | _ => none

def hongKongWriter : Writer where
  bytes? := fun c =>
    asciiByte? c <|> (Grid.hongKong.lastPlace? c).map (bigBytes hongKongBase) <|> big5Bytes? c
  pair? := fun c d =>
    (composedTrails.find? fun entry => decide (entry.2 = (c, d))).map fun entry =>
      [composedLead, entry.1]

end SchemeCheck.Encoding.Multibyte

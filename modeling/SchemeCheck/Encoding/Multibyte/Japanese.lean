import SchemeCheck.Encoding.Grid.Japanese
import SchemeCheck.Encoding.Grid.JapaneseExtended
import SchemeCheck.Encoding.Grid.JapaneseSupplement
import SchemeCheck.Encoding.Grid.JapaneseVendor
import SchemeCheck.Encoding.Multibyte.Basic

/-!
# SchemeCheck.Encoding.Multibyte.Japanese

Japanese encodings.  Shift JIS writes the rows of a grid by two in the lead
bytes that its half-width katakana leave free; EUC writes all in the upper
half, with a shift byte before katakana and before a second plane.
-/

namespace SchemeCheck.Encoding.Multibyte

/-! ## Half-width katakana -/

/-- How far the number of a katakana is above its byte. -/
def katakanaOffset : Nat := 0xFEC0

def katakana? (b : UInt8) : Option Char :=
  if 0xA1 ≤ b.toNat ∧ b.toNat ≤ 0xDF then some (Char.ofNat (b.toNat + katakanaOffset)) else none

def katakanaByte? (c : Char) : Option UInt8 :=
  if 0xFF61 ≤ c.toNat ∧ c.toNat ≤ 0xFF9F then some (UInt8.ofNat (c.toNat - katakanaOffset))
  else none

/-! ## The cells of Shift JIS -/

def isShiftLead (b : UInt8) : Bool :=
  let n := b.toNat
  (0x81 ≤ n && n ≤ 0x9F) || (0xE0 ≤ n && n ≤ 0xFC)

/-- The cell that two bytes of Shift JIS spell: two rows share a lead byte. -/
def shiftCell? (a b : UInt8) : Option Nat :=
  let lead := a.toNat
  let trail := b.toNat
  if isShiftLead a && (0x40 ≤ trail && trail ≤ 0xFC && trail != 0x7F) then
    let pairOfRows := if lead < 0xA0 then lead - 0x81 else lead - 0xC1
    let column := trail - 0x40 - (if 0x7F < trail then 1 else 0)
    some (pairOfRows * 2 * rowSize + column)
  else none

def shiftBytes (i : Nat) : List UInt8 :=
  let pairOfRows := i / (2 * rowSize)
  let column := i % (2 * rowSize)
  [UInt8.ofNat (if pairOfRows < 0x1F then pairOfRows + 0x81 else pairOfRows + 0xC1),
    UInt8.ofNat (column + 0x40 + (if column + 0x40 < 0x7F then 0 else 1))]

/-! ## JIS X 0213 -/

/-- The editions of JIS X 0213. -/
inductive Edition where
  | of2000
  | of2004
  deriving DecidableEq

/-- The characters that the later edition added to the first plane. -/
def addedIn2004 : Text := "俱剝𠮟吞噓姸屛幷瘦繫".toList

/-- The cell of the second plane whose character the editions do not agree on. -/
def disputedCell : Nat := 92 * rowSize + 26

/-- The character of the disputed cell. -/
def Edition.disputed : Edition → Char
  | of2000 => '鬝'
  | of2004 => '鬜'

/-- The cells of the first plane that hold two characters. -/
def pairCells : List (Nat × Char × Char) :=
  [(3 * 94 + 86, 'か', '\u309a'), (3 * 94 + 87, 'き', '\u309a'), (3 * 94 + 88, 'く', '\u309a'),
   (3 * 94 + 89, 'け', '\u309a'), (3 * 94 + 90, 'こ', '\u309a'), (4 * 94 + 86, 'カ', '\u309a'),
   (4 * 94 + 87, 'キ', '\u309a'), (4 * 94 + 88, 'ク', '\u309a'), (4 * 94 + 89, 'ケ', '\u309a'),
   (4 * 94 + 90, 'コ', '\u309a'), (4 * 94 + 91, 'セ', '\u309a'), (4 * 94 + 92, 'ツ', '\u309a'),
   (4 * 94 + 93, 'ト', '\u309a'), (5 * 94 + 87, 'ㇷ', '\u309a'), (10 * 94 + 35, 'æ', '\u0300'),
   (10 * 94 + 39, 'ɔ', '\u0300'), (10 * 94 + 40, 'ɔ', '\u0301'), (10 * 94 + 41, 'ʌ', '\u0300'),
   (10 * 94 + 42, 'ʌ', '\u0301'), (10 * 94 + 43, 'ə', '\u0300'), (10 * 94 + 44, 'ə', '\u0301'),
   (10 * 94 + 45, 'ɚ', '\u0300'), (10 * 94 + 46, 'ɚ', '\u0301'), (10 * 94 + 68, '˩', '˥'),
   (10 * 94 + 69, '˥', '˩')]

/-- The cell of the first plane that holds two characters. -/
def pairCell? (c d : Char) : Option Nat :=
  (pairCells.find? fun entry => decide (entry.2 = (c, d))).map Prod.fst

/-- Whether an edition does not have a character that another has. -/
def Edition.lacks (edition : Edition) (c : Char) : Bool :=
  decide (edition = .of2000) && addedIn2004.contains c

/-- Whether a cell of the first plane holds a character that an edition does not
have. -/
def Edition.lacksCell (edition : Edition) (i : Nat) : Bool :=
  (Grid.japaneseAdded.char? i).any edition.lacks

def firstPlaneText? (i : Nat) : Option Text :=
  match Grid.japanese.char? i, pairCells.lookup i with
  | some c, _ => some [c]
  | none, some (c, d) => some [c, d]
  | none, none => (Grid.japaneseAdded.char? i).map fun c => [c]

def firstPlaneCell? (c : Char) : Option Nat :=
  Grid.japanese.place? c <|> Grid.japaneseAdded.place? c

/-- What stands at the front of bytes of which the first two spell a cell, if
they spell one: both are malformed where an edition lacks the character. -/
def Edition.front (edition : Edition) (cell? : Option Nat) (front : Front) : Front :=
  if cell?.any edition.lacksCell then .malformed 1 illegal else front

/-- The bytes of a character, unless only the other edition has it. -/
def Edition.written? (edition : Edition) (c : Char) (bytes? : Option (List UInt8)) :
    Option (List UInt8) :=
  if edition.lacks c ∨ (edition = .of2000 ∧ c = Edition.of2004.disputed) then none else bytes?

def secondPlaneChar? (edition : Edition) (i : Nat) : Option Char :=
  if i = disputedCell then some edition.disputed else Grid.japaneseSecond.char? i

def secondPlaneCell? (edition : Edition) (c : Char) : Option Nat :=
  if c = edition.disputed then some disputedCell
  else (Grid.japaneseSecond.place? c).filter (· ≠ disputedCell)

/-! ## Shift JIS -/

/-- What stands at the front of Shift JIS, with the last lead byte and the given
characters of cells. -/
def shiftFront (lastLead : Nat) (text? : Nat → Option Text) (b : UInt8) (rest : List UInt8) :
    Front :=
  match katakana? b with
  | some c => .char c 0
  | none =>
    if b.toNat < 0x80 then .char (Char.ofNat b.toNat) 0
    else if isShiftLead b && decide (b.toNat ≤ lastLead) then
      withMore 1 rest fun
        | [next] => (shiftCell? b next).bind text?
        | _ => none
    else .malformed 0 illegal

/-- The bytes of a character in Shift JIS, with the given cells of characters. -/
def shiftWritten? (cell? : Char → Option Nat) (c : Char) : Option (List UInt8) :=
  asciiByte? c <|> (katakanaByte? c).map (fun b => [b]) <|> (cell? c).map shiftBytes

/-- How Shift JIS writes the marks whose place in ASCII differs. -/
def romanByte? (c : Char) : Option (List UInt8) :=
  if c = '¥' then some [0x5C] else if c = '‾' then some [0x7E] else none

def lastPlainLead : Nat := 0xEA

def lastShiftLead : Nat := 0xFC

def shiftJisFront : UInt8 → List UInt8 → Front :=
  shiftFront lastPlainLead fun i => (Grid.japanese.char? i).map fun c => [c]

def shiftJisWriter : Writer where
  bytes? := fun c => romanByte? c <|> shiftWritten? Grid.japanese.place? c

/-! ## The Shift JIS of Windows -/

/-- The cells of JIS X 0208 that hold another character here. -/
def windowsCells : List (Nat × Char) :=
  [(32, '～'), (33, '∥'), (60, '－'), (80, '￠'), (81, '￡'), (94 + 43, '￢')]

def privateRow : Nat := 94

def privateRows : Nat := 20

def privateStart : Nat := 0xE000

/-- The rows that the vendor filled, with the row that they start at. -/
def vendorRows : List (Nat × Grid) :=
  [(12, .japaneseMarks), (88, .japaneseSelected), (114, .japaneseForeign)]

def windowsChar? (i : Nat) : Option Char :=
  let inPrivate := i - privateRow * rowSize
  if privateRow * rowSize ≤ i ∧ inPrivate < privateRows * rowSize then
    some (Char.ofNat (privateStart + inPrivate))
  else
    windowsCells.lookup i <|> Grid.japanese.char? i <|>
      vendorRows.findSome? fun (row, grid) =>
        if row * rowSize ≤ i then grid.char? (i - row * rowSize) else none

/-- The cell of a character in the Shift JIS of Windows.  The characters that
others took the place of are written in the same cells. -/
def windowsCell? (c : Char) : Option Nat :=
  let inPrivate := c.toNat - privateStart
  if privateStart ≤ c.toNat ∧ inPrivate < privateRows * rowSize then
    some (privateRow * rowSize + inPrivate)
  else
    (windowsCells.find? fun cell => cell.2 = c).map Prod.fst <|> Grid.japanese.place? c <|>
      vendorRows.findSome? fun (row, grid) => (grid.place? c).map (row * rowSize + ·)

/-- The single bytes that only Windows reads. -/
def windowsSingles : List (UInt8 × Char) :=
  [(0x80, '\u0080'), (0xA0, '\uf8f0'), (0xFD, '\uf8f1'), (0xFE, '\uf8f2'), (0xFF, '\uf8f3')]

def windows932Front (b : UInt8) (rest : List UInt8) : Front :=
  match windowsSingles.lookup b with
  | some c => .char c 0
  | none => shiftFront lastShiftLead (fun i => (windowsChar? i).map fun c => [c]) b rest

def windows932Writer : Writer where
  bytes? := fun c =>
    (windowsSingles.find? fun single => single.2 = c).map (fun single => [single.1]) <|>
      shiftWritten? windowsCell? c

/-! ## Shift JIS with JIS X 0213 -/

/-- The rows of the second plane that Shift JIS writes, in the order in which
they follow the first plane. -/
def secondRows : List Nat :=
  [1, 8, 3, 4, 5, 12, 13, 14, 15] ++ (List.range 17).map (78 + ·)

/-- The cells whose character in the first plane is the full-width one of an
ASCII mark, with that mark: a byte of Shift JIS spells another mark. -/
def freedMarks : List (Nat × Char) :=
  [(31, '\\'), (94 + 17, '~')]

/-- The characters of a cell in Shift JIS with JIS X 0213. -/
def shiftExtendedText? (edition : Edition) (i : Nat) : Option Text :=
  if i < rowSize * rowSize then
    ((freedMarks.lookup i).map fun c => [c]) <|> firstPlaneText? i
  else do
    let row ← secondRows[i / rowSize - rowSize]?
    let c ← secondPlaneChar? edition ((row - 1) * rowSize + i % rowSize)
    return [c]

def shiftExtendedCell? (edition : Edition) (c : Char) : Option Nat :=
  (freedMarks.find? fun mark => mark.2 = c).map Prod.fst <|>
    ((firstPlaneCell? c).filter fun i => (freedMarks.lookup i).isNone) <|> do
      let i ← secondPlaneCell? edition c
      let row ← secondRows.idxOf? (i / rowSize + 1)
      return (rowSize + row) * rowSize + i % rowSize

/-- What stands at the front of Shift JIS with JIS X 0213. -/
def shiftExtendedFront (edition : Edition) (b : UInt8) (rest : List UInt8) : Front :=
  if b = 0x5C then .char '¥' 0
  else if b = 0x7E then .char '‾' 0
  else
    edition.front (rest.head?.bind (shiftCell? b))
      (shiftFront lastShiftLead (shiftExtendedText? edition) b rest)

def shiftExtendedWriter (edition : Edition) : Writer where
  bytes? := fun c =>
    edition.written? c
      (romanByte? c <|>
        (if (freedMarks.find? fun mark => mark.2 = c).isSome then
          (shiftExtendedCell? edition c).map shiftBytes
         else shiftWritten? (shiftExtendedCell? edition) c))
  pair? := fun c d => (pairCell? c d).map shiftBytes

/-! ## EUC -/

def katakanaShift : UInt8 := 0x8E

def planeShift : UInt8 := 0x8F

/-- What stands at the front of Japanese EUC, with the given characters of the
cells of two planes. -/
def eucFront (first? second? : Nat → Option Text) (b : UInt8) (rest : List UInt8) : Front :=
  if b.toNat < 0x80 then .char (Char.ofNat b.toNat) 0
  else if b = katakanaShift then withNext rest katakana?
  else if b = planeShift then
    withMore 2 rest fun
      | [row, column] => (cellOf? upperBase row column).bind second?
      | _ => none
  else
    withMore 1 rest fun
      | [next] => (cellOf? upperBase b next).bind first?
      | _ => none

/-- The bytes of a character in Japanese EUC, with the given cells of two
planes. -/
def eucWritten? (first? second? : Char → Option Nat) (c : Char) : Option (List UInt8) :=
  asciiByte? c <|> (katakanaByte? c).map (fun b => [katakanaShift, b]) <|>
    (first? c).map (cellBytes upperBase) <|>
    (second? c).map fun i => planeShift :: cellBytes upperBase i

def eucJpFront : UInt8 → List UInt8 → Front :=
  eucFront (fun i => (Grid.japanese.char? i).map fun c => [c])
    (fun i => (Grid.japaneseSupplement.char? i).map fun c => [c])

def eucJpWriter : Writer where
  bytes? := fun c =>
    romanByte? c <|> eucWritten? Grid.japanese.place? Grid.japaneseSupplement.place? c

/-- What stands at the front of Japanese EUC with JIS X 0213, whose second plane
has the characters of JIS X 0212 in its free cells. -/
def eucExtendedFront (edition : Edition) (b : UInt8) (rest : List UInt8) : Front :=
  let secondText? (i : Nat) : Option Text :=
    (secondPlaneChar? edition i <|> Grid.japaneseSupplement.char? i).map fun c => [c]
  edition.front (rest.head?.bind (cellOf? upperBase b))
    (eucFront firstPlaneText? secondText? b rest)

def eucExtendedWriter (edition : Edition) : Writer where
  bytes? := fun c =>
    edition.written? c
      (eucWritten? firstPlaneCell?
        (fun c => secondPlaneCell? edition c <|> Grid.japaneseSupplement.place? c) c)
  pair? := fun c d => (pairCell? c d).map (cellBytes upperBase)

end SchemeCheck.Encoding.Multibyte

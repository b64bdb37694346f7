import SchemeCheck.Encoding.Grid.Korean
import SchemeCheck.Encoding.Multibyte.Basic

/-!
# SchemeCheck.Encoding.Multibyte.Korean

Korean encodings.  KS X 1001 has only the syllables in daily use.  EUC spells
the others by their letters, Windows gives them the cells that are left, and
Johab writes every syllable by five bits for each of its letters.
-/

namespace SchemeCheck.Encoding.Multibyte

/-! ## Syllables -/

def firstSyllable : Nat := 0xAC00

def vowelCount : Nat := 21

/-- How many endings there are, the missing one included. -/
def endingCount : Nat := 28

def syllableCount : Nat := 19 * vowelCount * endingCount

/-- A syllable, by the numbers of its initial, its vowel and its ending. -/
structure Syllable where
  initial : Nat
  vowel : Nat
  ending : Nat

def Syllable.char (syllable : Syllable) : Char :=
  Char.ofNat
    (firstSyllable + (syllable.initial * vowelCount + syllable.vowel) * endingCount +
      syllable.ending)

def Syllable.ofChar? (c : Char) : Option Syllable :=
  let n := c.toNat - firstSyllable
  if firstSyllable ≤ c.toNat ∧ n < syllableCount then
    some
      { initial := n / endingCount / vowelCount
        vowel := n / endingCount % vowelCount
        ending := n % endingCount }
  else none

/-- The first of the letters that stand alone, which are consonants first and
vowels behind them. -/
def firstLetter : Nat := 0x3131

def consonantCount : Nat := 30

/-- The consonants that can be initials, by their place among all. -/
def initials : List Nat :=
  [0, 1, 3, 6, 7, 8, 16, 17, 18, 20, 21, 22, 23, 24, 25, 26, 27, 28, 29]

/-- The consonants that can be endings, likewise. -/
def endings : List Nat :=
  (List.range consonantCount).filter fun i => !([7, 18, 24].contains i)

/-! ## EUC -/

/-- The byte before every letter of a syllable that is spelled. -/
def letterLead : UInt8 := 0xA4

/-- The byte of a missing letter. -/
def letterFiller : UInt8 := 0xD4

/-- The byte of the consonant or vowel with the given place among the letters. -/
def letterByte (place : Nat) : UInt8 :=
  UInt8.ofNat (0xA1 + place)

def koreanChar? (a b : UInt8) : Option Char :=
  (cellOf? upperBase a b).bind Grid.korean.char?

/-- The syllable that is spelled by its letters, from the byte of the initial
on. -/
def spelledSyllable? (initial vowel ending : UInt8) : Option Char := do
  let initial ← initials.idxOf? (initial.toNat - 0xA1)
  let vowel := vowel.toNat - 0xBF
  let ending ←
    if ending = letterFiller then some 0
    else (endings.idxOf? (ending.toNat - 0xA1)).map (· + 1)
  if vowel < vowelCount then some (Syllable.mk initial vowel ending).char else none

def eucKrFront (b : UInt8) (rest : List UInt8) : Front :=
  if b.toNat < 0x80 then .char (Char.ofNat b.toNat) 0
  else if b = letterLead ∧ rest.head? = some letterFiller then
    withMore 7 rest fun
      | [_, lead, initial, lead2, vowel, lead3, ending] =>
        if lead = letterLead ∧ lead2 = letterLead ∧ lead3 = letterLead ∧
            0xA1 ≤ initial.toNat ∧ 0xBF ≤ vowel.toNat ∧ 0xA1 ≤ ending.toNat then
          (spelledSyllable? initial vowel ending).map fun c => [c]
        else none
      | _ => none
  else withNext rest (koreanChar? b)

/-- The letters of a syllable, spelled. -/
def Syllable.spelled (syllable : Syllable) : List UInt8 :=
  [letterLead, letterFiller, letterLead, letterByte ((initials[syllable.initial]?).getD 0),
    letterLead, letterByte (consonantCount + syllable.vowel), letterLead,
    if syllable.ending = 0 then letterFiller
    else letterByte ((endings[syllable.ending - 1]?).getD 0)]

def eucKrWriter : Writer where
  bytes? := fun c =>
    asciiByte? c <|> (Grid.korean.place? c).map (cellBytes upperBase) <|>
      (Syllable.ofChar? c).map Syllable.spelled

/-! ## The Korean encoding of Windows -/

/-- The syllables that KS X 1001 does not have, in their order.  Those that it
has stand in their order, too. -/
def furtherSyllables : Array Char :=
  let known := Grid.korean.cells.toList.filter fun c => (Syllable.ofChar? c).isSome
  (((List.range syllableCount).foldl (fun (further, known) i =>
      let c := Char.ofNat (firstSyllable + i)
      if known.head? = some c then (further, known.tail) else (c :: further, known))
    (([], known) : List Char × List Char)).1.reverse).toArray

/-- The second bytes of the further syllables. -/
def furtherTrails : List Nat :=
  (List.range 26).map (0x41 + ·) ++ (List.range 26).map (0x61 + ·) ++
    (List.range 126).map (0x81 + ·)

/-- The last lead byte with further syllables behind all second bytes; those
after it have only the second bytes that EUC leaves free. -/
def lastFullLead : Nat := 0xA0

/-- How many second bytes EUC leaves free. -/
def freeTrails : Nat := 84

/-- How many further syllables stand behind lead bytes with all second bytes. -/
def fullCount : Nat := (lastFullLead - 0x80) * furtherTrails.length

def furtherSyllable? (a b : UInt8) : Option Char := do
  let column ← furtherTrails.idxOf? b.toNat
  if 0x81 ≤ a.toNat ∧ a.toNat ≤ lastFullLead then
    furtherSyllables[(a.toNat - 0x81) * furtherTrails.length + column]?
  else if lastFullLead < a.toNat ∧ column < freeTrails then
    furtherSyllables[fullCount + (a.toNat - lastFullLead - 1) * freeTrails + column]?
  else none

def furtherBytes? (c : Char) : Option (List UInt8) := do
  let i ← furtherSyllables.idxOf? c
  let (lead, column) :=
    if i < fullCount then (0x81 + i / furtherTrails.length, i % furtherTrails.length)
    else (lastFullLead + 1 + (i - fullCount) / freeTrails, (i - fullCount) % freeTrails)
  let trail ← furtherTrails[column]?
  return [UInt8.ofNat lead, UInt8.ofNat trail]

/-- What stands at the front of the Korean encoding of Windows. -/
def windows949Front (b : UInt8) (rest : List UInt8) : Front :=
  if b.toNat < 0x80 then .char (Char.ofNat b.toNat) 0
  else withNext rest fun next => koreanChar? b next <|> furtherSyllable? b next

def windows949Writer : Writer where
  bytes? := fun c =>
    asciiByte? c <|> (Grid.korean.place? c).map (cellBytes upperBase) <|> furtherBytes? c

/-! ## Johab -/

/-- The five bits of the vowels. -/
def vowelBits : List Nat :=
  [3, 4, 5, 6, 7, 10, 11, 12, 13, 14, 15, 18, 19, 20, 21, 22, 23, 26, 27, 28, 29]

/-- The five bits of the endings, the missing one first. -/
def endingBits : List Nat :=
  (List.range 17).map (1 + ·) ++ (List.range 11).map (19 + ·)

def noInitial : Nat := 1

def noVowel : Nat := 2

def noEnding : Nat := 1

def letterChar (place : Nat) : Char :=
  Char.ofNat (firstLetter + place)

/-- The character that three groups of five bits spell. -/
def johabSyllable? (initial vowel ending : Nat) : Option Char :=
  let initial? := if 2 ≤ initial ∧ initial < 21 then some (initial - 2) else none
  let vowel? := vowelBits.idxOf? vowel
  let ending? := if ending = noEnding then none else endingBits.idxOf? ending
  if (initial?.isNone && initial != noInitial) || (vowel?.isNone && vowel != noVowel) ||
      (ending?.isNone && ending != noEnding) then
    none
  else
    match initial?, vowel?, ending? with
    | some i, some v, e => some (Syllable.mk i v (e.getD 0)).char
    | some i, none, none => (initials[i]?).map letterChar
    | none, some v, none => some (letterChar (consonantCount + v))
    | none, none, some e => (endings[e - 1]?).map letterChar
    | none, none, none => some '\u3000'
    | _, _, _ => none

/-- The cell of KS X 1001 that two bytes of Johab spell: its rows without letters
and syllables. -/
def johabCell? (a b : UInt8) : Option Nat :=
  let lead := a.toNat
  let trail := b.toNat
  if lead < 0xD8 || lead = 0xDF || 0xF9 < lead || trail < 0x31 ||
      (0x80 ≤ trail && trail < 0x91) || trail % 0x80 = 0x7F ||
      (lead = 0xDA && 0xA1 ≤ trail && trail ≤ 0xD3) then
    none
  else
    let row := if lead < 0xE0 then 2 * (lead - 0xD9) else 2 * lead - 0x197
    let column := if trail < 0x91 then trail - 0x31 else trail - 0x43
    if lead < 0xD9 then none else some (row * rowSize + column)

/-- The bytes of Johab that spell a cell of KS X 1001. -/
def johabBytes? (i : Nat) : Option (List UInt8) :=
  let row := i / rowSize
  if row < 12 ∨ (41 ≤ row ∧ row < 93) then
    let pairOfRows := if row < 41 then row + 0x1B2 else row + 0x197
    let column := (if pairOfRows % 2 = 1 then rowSize else 0) + i % rowSize
    some
      [UInt8.ofNat (pairOfRows / 2),
        UInt8.ofNat (if column < 0x4E then column + 0x31 else column + 0x43)]
  else none

/-- The two bytes with three groups of five bits. -/
def johabGroups (initial vowel ending : Nat) : List UInt8 :=
  let n := 0x8000 + initial * 1024 + vowel * 32 + ending
  [UInt8.ofNat (n / 256), UInt8.ofNat (n % 256)]

/-- The bytes of a letter that stands alone in Johab. -/
def johabLetter? (c : Char) : Option (List UInt8) :=
  let place := c.toNat - firstLetter
  if c.toNat < firstLetter then none
  else if place < consonantCount then
    match initials.idxOf? place, endings.idxOf? place with
    | some i, _ => some (johabGroups (2 + i) noVowel noEnding)
    | none, some e => (endingBits[e + 1]?).map (johabGroups noInitial noVowel)
    | none, none => none
  else (vowelBits[place - consonantCount]?).map fun vowel =>
    johabGroups noInitial vowel noEnding

def Syllable.johab (syllable : Syllable) : List UInt8 :=
  johabGroups (2 + syllable.initial) ((vowelBits[syllable.vowel]?).getD noVowel)
    ((endingBits[syllable.ending]?).getD noEnding)

def johabFront (b : UInt8) (rest : List UInt8) : Front :=
  if b.toNat < 0x80 then .char (Char.ofNat b.toNat) 0
  else
    withNext rest fun next =>
      if b.toNat < 0xD8 then
        let n := b.toNat * 256 + next.toNat
        johabSyllable? (n / 1024 % 32) (n / 32 % 32) (n % 32)
      else (johabCell? b next).bind Grid.korean.char?

def johabWriter : Writer where
  bytes? := fun c =>
    asciiByte? c <|> (Syllable.ofChar? c).map Syllable.johab <|> johabLetter? c <|>
      (Grid.korean.place? c).bind johabBytes?

end SchemeCheck.Encoding.Multibyte

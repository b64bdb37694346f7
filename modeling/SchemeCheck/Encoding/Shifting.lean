import SchemeCheck.Encoding.Charset
import SchemeCheck.Encoding.Multibyte

/-!
# SchemeCheck.Encoding.Shifting

Encodings in seven bits, in which some bytes change what the later ones mean:
those of ISO 2022, where an escape sequence designates a character set, and HZ,
where a tilde does so.
-/

namespace SchemeCheck.Encoding

/-! ## Designated sets -/

/-- A character set that can be designated. -/
inductive CodedSet where
  | ascii
  /-- ASCII with a yen sign and an overline. -/
  | roman
  | katakana
  | latin1
  | greek
  /-- JIS X 0208 in its first edition, which is read like the later one. -/
  | firstJapanese
  | japanese
  | japaneseSupplement
  /-- The first plane of JIS X 0213. -/
  | plane1 (edition : Multibyte.Edition)
  /-- The second plane of JIS X 0213. -/
  | plane2 (edition : Multibyte.Edition)
  | chinese
  | korean
  deriving DecidableEq

namespace CodedSet

open Multibyte (Edition cellOf? cellBytes lowerBase upperBase)

def width : CodedSet → Nat
  | ascii | roman | katakana | latin1 | greek => 1
  | _ => 2

def mark : CodedSet → Char
  | ascii => 'B'
  | roman => 'J'
  | katakana => 'I'
  | latin1 => 'A'
  | greek => 'F'
  | firstJapanese => '@'
  | japanese => 'B'
  | japaneseSupplement => 'D'
  | plane1 .of2000 => 'O'
  | plane1 .of2004 => 'Q'
  | plane2 _ => 'P'
  | chinese => 'A'
  | korean => 'C'

/-- The cell of the first plane of JIS X 0213 that holds a tilde, which EUC takes
for a full-width one. -/
def tildeCell : Nat := 94 + 17

/-- The characters of bytes in a set; the sets for other places have none here. -/
def text? (set : CodedSet) (bytes : List UInt8) : Option Text :=
  let cell? (char? : Nat → Option Char) : Option Text :=
    match bytes with
    | [a, b] => ((cellOf? lowerBase a b).bind char?).map fun c => [c]
    | _ => none
  match set, bytes with
  | roman, [b] =>
    some [if b = 0x5C then '¥' else if b = 0x7E then '‾' else Char.ofNat b.toNat]
  | katakana, [b] => (Multibyte.katakana? (b + 0x80)).map fun c => [c]
  | firstJapanese, _ | japanese, _ => cell? Grid.japanese.char?
  | japaneseSupplement, _ => cell? Grid.japaneseSupplement.char?
  | plane1 edition, [a, b] =>
    ((cellOf? lowerBase a b).filter fun i => !edition.lacksCell i).bind fun i =>
      if i = tildeCell then some ['~'] else Multibyte.firstPlaneText? i
  | plane2 edition, _ => cell? (Multibyte.secondPlaneChar? edition)
  | chinese, [a, b] => (Multibyte.gb2312Char? (a + 0x80) (b + 0x80)).map fun c => [c]
  | korean, _ => cell? Grid.korean.char?
  | _, _ => none

def bytes? (c : Char) : CodedSet → Option (List UInt8)
  | roman => Multibyte.romanByte? c
  | katakana => (Multibyte.katakanaByte? c).map fun b => [b - 0x80]
  | japanese => (Grid.japanese.place? c).map (cellBytes lowerBase)
  | japaneseSupplement => (Grid.japaneseSupplement.place? c).map (cellBytes lowerBase)
  | plane1 edition =>
    edition.written? c
      (((Multibyte.firstPlaneCell? c).filter (· ≠ tildeCell)).map (cellBytes lowerBase))
  | plane2 edition => (Multibyte.secondPlaneCell? edition c).map (cellBytes lowerBase)
  | chinese => (Multibyte.gb2312Bytes? c).map fun bytes => bytes.map (· - 0x80)
  | korean => (Grid.korean.place? c).map (cellBytes lowerBase)
  | _ => none

def pairBytes? (c d : Char) : CodedSet → Option (List UInt8)
  | plane1 _ => (Multibyte.pairCell? c d).map (cellBytes lowerBase)
  | _ => none

end CodedSet

/-! ## ISO 2022 -/

/-- An encoding of ISO 2022. -/
inductive Iso2022 where
  | jp
  | jp1
  | jp2
  | jp3
  | jp2004
  | jpExtended
  | kr
  deriving DecidableEq

namespace Iso2022

def codec : Iso2022 → String
  | jp => "iso2022_jp"
  | jp1 => "iso2022_jp_1"
  | jp2 => "iso2022_jp_2"
  | jp3 => "iso2022_jp_3"
  | jp2004 => "iso2022_jp_2004"
  | jpExtended => "iso2022_jp_ext"
  | kr => "iso2022_kr"

/-- The sets that can be designated, in the order in which they are tried for
writing. -/
def sets : Iso2022 → List CodedSet
  | jp => [.japanese, .roman, .firstJapanese]
  | jp1 => [.japanese, .japaneseSupplement, .roman, .firstJapanese]
  | jp2 =>
    [.japanese, .japaneseSupplement, .korean, .chinese, .roman, .firstJapanese, .latin1, .greek]
  | jp3 => [.japanese, .plane1 .of2000, .plane2 .of2000]
  | jp2004 => [.japanese, .plane1 .of2004, .plane2 .of2004]
  | jpExtended => [.japanese, .japaneseSupplement, .roman, .katakana, .firstJapanese]
  | kr => [.korean]

/-- Whether shift bytes select between two sets. -/
def hasShift (encoding : Iso2022) : Bool :=
  decide (encoding = kr)

/-- Whether single characters can be taken from a third set. -/
def hasThird (encoding : Iso2022) : Bool :=
  decide (encoding = jp2)

/-! ### Reading -/

/-- What the bytes so far have set. -/
structure State where
  first : CodedSet := .ascii
  second : CodedSet := .ascii
  third : CodedSet := .ascii
  /-- Whether the second set is selected. -/
  shifted : Bool := false
  /-- Whether the bytes are those of an escape sequence that designates nothing. -/
  verbatim : Bool := false
  deriving DecidableEq

def escape : UInt8 := 0x1B

def shiftIn : UInt8 := 0x0F

def shiftOut : UInt8 := 0x0E

def isFinal (b : UInt8) : Bool :=
  0x40 ≤ b.toNat && b.toNat ≤ 0x5A

def bytesOf (s : String) : List UInt8 :=
  s.toList.map fun c => UInt8.ofNat c.toNat

def maxEscape : Nat := 16

/-- How many of the bytes behind an escape byte belong to its sequence: none if
the bytes end within it, zero if it does not end.  The mark of a revised set may
stand in front. -/
def escapeSize (encoding : Iso2022) : Nat → Nat → List UInt8 → Option Nat
  | 0, _, _ => some 0
  | _ + 1, _, [] => none
  | fuel + 1, size, b :: rest =>
    if isFinal b then some (size + 1)
    else if !encoding.hasShift && b = 0x26 && rest.head? = some 0x40 then
      escapeSize encoding (fuel - 2) (size + 3) (rest.drop 2)
    else escapeSize encoding fuel (size + 1) rest

/-- Where an escape sequence designates a set. -/
inductive Role where
  | first
  | second
  | third

/-- The set that a mark stands for, of the given width. -/
def markedSet? (encoding : Iso2022) (width : Nat) (mark : UInt8) : Option CodedSet :=
  (.ascii :: encoding.sets).find? fun set =>
    set.width == width && UInt8.ofNat set.mark.toNat == mark

/-- What the bytes of an escape sequence behind its first designate.  The mark of a
revised set is not looked at. -/
def designation? (encoding : Iso2022) (bytes : List UInt8) : Option (Role × CodedSet) :=
  match bytes.map fun b => Char.ofNat b.toNat with
  | ['$', mark] => (encoding.markedSet? 2 (UInt8.ofNat mark.toNat)).map (.first, ·)
  | ['(', mark] => (encoding.markedSet? 1 (UInt8.ofNat mark.toNat)).map (.first, ·)
  | [')', mark] => (encoding.markedSet? 1 (UInt8.ofNat mark.toNat)).map (.second, ·)
  | ['.', mark] =>
    if encoding.hasThird then (encoding.markedSet? 1 (UInt8.ofNat mark.toNat)).map (.third, ·)
    else none
  | ['$', '(', mark] => (encoding.markedSet? 2 (UInt8.ofNat mark.toNat)).map (.first, ·)
  | ['$', ')', mark] => (encoding.markedSet? 2 (UInt8.ofNat mark.toNat)).map (.second, ·)
  | [_, _, '\x1b', '$', 'B'] =>
    if encoding.hasShift then none else (encoding.markedSet? 2 0x42).map (.first, ·)
  | _ => none

/-- The state with a set designated. -/
def State.designate (state : State) : Role → CodedSet → State
  | .first, set => { state with first := set }
  | .second, set => { state with second := set }
  | .third, set => { state with third := set }

/-- What an escape sequence makes of the state. -/
def readEscape (encoding : Iso2022) (state : State) (rest : List UInt8) : State × Front :=
  match escapeSize encoding (maxEscape - 1) 0 rest with
  | none => (state, .malformed rest.length Multibyte.incomplete)
  | some 0 => (state, .malformed 0 Multibyte.illegal)
  | some size =>
    match encoding.designation? (rest.take size) with
    | some (role, set) => (state.designate role set, .text [] size)
    | none => (state, .malformed size Multibyte.illegal)

/-- The characters of the Greek set that are not read, since they came later. -/
def laterGreek : Text := "€₯ͺ".toList

/-- The character that a byte spells in the third set. -/
def thirdChar? (b : UInt8) : CodedSet → Option Char
  | .latin1 => if b.toNat < 0x80 then some (Char.ofNat (b.toNat + 0x80)) else none
  | .greek =>
    if b.toNat < 0x80 then
      (Charset.iso8859Part7.charOf? (b + 0x80)).filter fun c => !laterGreek.contains c
    else some (Char.ofNat (b.toNat - 0x80))
  | .ascii => if b.toNat < 0x80 then some (Char.ofNat b.toNat) else none
  | _ => none

/-- What stands at the front of bytes in a state, and the state behind it. -/
def step (encoding : Iso2022) (state : State) (b : UInt8) (rest : List UInt8) : State × Front :=
  let asItself := Front.char (Char.ofNat b.toNat) 0
  let set := if state.shifted then state.second else state.first
  if state.verbatim then ({ state with verbatim := !isFinal b }, asItself)
  else if b = escape then
    match rest with
    | [] => (state, .malformed 0 Multibyte.incomplete)
    | next :: more =>
      if (bytesOf "()$.&").contains next then encoding.readEscape state rest
      else if encoding.hasThird && next = 0x4E then
        match more with
        | [] => (state, .malformed 1 Multibyte.incomplete)
        | c :: _ =>
          match thirdChar? c state.third with
          | some c => (state, .char c 2)
          | none => (state, .malformed 2 Multibyte.illegal)
      else ({ state with verbatim := true }, asItself)
  else if encoding.hasShift && b = shiftIn then ({ state with shifted := false }, .text [] 0)
  else if encoding.hasShift && b = shiftOut then ({ state with shifted := true }, .text [] 0)
  else if b = 0x0A then ({ state with shifted := false }, asItself)
  else if b.toNat < 0x20 then (state, asItself)
  else if 0x80 ≤ b.toNat then (state, .malformed 0 Multibyte.illegal)
  else if set = .ascii then (state, asItself)
  else if rest.length + 1 < set.width then (state, .malformed rest.length Multibyte.incomplete)
  else
    match set.text? (b :: rest.take (set.width - 1)) with
    | some text => (state, .text text (set.width - 1))
    | none => (state, .malformed (set.width - 1) Multibyte.illegal)

/-! ### Writing -/

/-- The bytes that select the first set. -/
def State.unshifted (state : State) : List UInt8 × State :=
  if state.shifted then ([shiftIn], { state with shifted := false }) else ([], state)

/-- The bytes that make ASCII the first set. -/
def State.plain (state : State) : List UInt8 × State :=
  if state.first = .ascii then ([], state)
  else (escape :: bytesOf "(B", { state with first := .ascii })

/-- The bytes that make another set the first. -/
def State.selecting (state : State) (set : CodedSet) : List UInt8 × State :=
  let (shift, state) := state.unshifted
  if state.first = set then (shift, state)
  else
    let sequence :=
      (if set.width = 1 then bytesOf "(" else if set = .japanese then bytesOf "$"
       else bytesOf "$(") ++ [UInt8.ofNat set.mark.toNat]
    (shift ++ escape :: sequence, { state with first := set })

/-- The bytes that make a set the second, and select it. -/
def State.shifting (state : State) (set : CodedSet) : List UInt8 × State :=
  let designated :=
    if state.second = set then []
    else escape :: bytesOf "$)" ++ [UInt8.ofNat set.mark.toNat]
  (designated ++ (if state.shifted then [] else [shiftOut]),
    { state with second := set, shifted := true })

/-- The bytes of a character, or of two, in the first set that has them: how many
were written, the bytes and the state behind them. -/
def State.write? (encoding : Iso2022) (state : State) (c : Char) (next? : Option Char) :
    Option (Nat × List UInt8 × State) :=
  if c.toNat < 0x80 then
    let (escaped, state) := state.plain
    let (shift, state) := state.unshifted
    some (1, escaped ++ shift ++ [UInt8.ofNat c.toNat], state)
  else do
    let (count, set, bytes) ←
      (next?.bind fun d => encoding.sets.findSome? fun set =>
        (set.pairBytes? c d).map fun bytes => (2, set, bytes)) <|>
      encoding.sets.findSome? fun set => (set.bytes? c).map fun bytes => (1, set, bytes)
    let (before, state) := if encoding.hasShift then state.shifting set else state.selecting set
    return (count, before ++ bytes, state)

/-- The bytes that lead back to the state at the start. -/
def State.closing (state : State) : List UInt8 :=
  let (shift, state) := state.unshifted
  shift ++ state.plain.1

/-- Write a text; `skipped` characters of it are written already. -/
def write (encoding : Iso2022) : State → Nat → Nat → List UInt8 → Text →
    Except (Nat × Char) (List UInt8)
  | state, _, _, written, [] => .ok (written.reverse ++ state.closing)
  | state, position, skipped + 1, written, _ :: rest =>
    write encoding state (position + 1) skipped written rest
  | state, position, 0, written, c :: rest =>
    match state.write? encoding c rest.head? with
    | some (count, bytes, state) =>
      write encoding state (position + 1) (count - 1) (bytes.reverse ++ written) rest
    | none => .error (position, c)

end Iso2022

/-! ## HZ -/

namespace Hz

def codec : String := "hz"

/-- What stands at the front of bytes, where `chinese` tells whether they spell
Chinese characters. -/
def step (chinese : Bool) (b : UInt8) (rest : List UInt8) : Bool × Front :=
  if b = 0x7E then
    match rest.head?.map fun next => Char.ofNat next.toNat with
    | none => (chinese, .malformed 0 Multibyte.incomplete)
    | some next =>
      if next = '~' && !chinese then (chinese, .char '~' 1)
      else if next = '\x7b' && !chinese then (true, .text [] 1)
      else if next = '\n' && !chinese then (chinese, .text [] 1)
      else if next = '\x7d' && chinese then (false, .text [] 1)
      else (chinese, .malformed 0 Multibyte.illegal)
  else if 0x80 ≤ b.toNat then (chinese, .malformed 0 Multibyte.illegal)
  else if !chinese then (chinese, .char (Char.ofNat b.toNat) 0)
  else
    (chinese, Multibyte.withNext rest fun next =>
      if next.toNat < 0x80 then Multibyte.gb2312Char? (b + 0x80) (next + 0x80) else none)

def opening : List UInt8 := [0x7E, 0x7B]

def closing : List UInt8 := [0x7E, 0x7D]

/-- Write a text, where `chinese` tells whether Chinese characters were started. -/
def write : Bool → Nat → List UInt8 → Text → Except (Nat × Char) (List UInt8)
  | chinese, _, written, [] => .ok (written.reverse ++ if chinese then closing else [])
  | chinese, position, written, c :: rest =>
    if c.toNat < 0x80 then
      let bytes := (if chinese then closing else []) ++
        (if c = '~' then [0x7E, 0x7E] else [UInt8.ofNat c.toNat])
      write false (position + 1) (bytes.reverse ++ written) rest
    else
      match Multibyte.gb2312Bytes? c with
      | some bytes =>
        let bytes := (if chinese then [] else opening) ++ bytes.map (· - 0x80)
        write true (position + 1) (bytes.reverse ++ written) rest
      | none => .error (position, c)

end Hz

end SchemeCheck.Encoding

import SchemeCheck.Encoding.Escaped
import SchemeCheck.Encoding.Shifting
import SchemeCheck.Encoding.Transformation
import SchemeCheck.Encoding.Utf16
import SchemeCheck.Encoding.Utf7
import SchemeCheck.Encoding.Utf8

/-!
# SchemeCheck.Encoding.Basic

The encodings in which files, standard input and captured output may be
written, and the failures of turning text into bytes and bytes into text.
There are two ways to read bytes: `decodeFile` takes them all as text, and
`capture` keeps the bytes that are no text.
-/

namespace SchemeCheck

/-- An encoding of text. -/
inductive Encoding where
  | utf8
  /-- UTF-8 with the order mark in front as a signature. -/
  | utf8Signed
  /-- UTF-16; without a fixed byte order the text starts with an order mark. -/
  | utf16 (order : Option Encoding.ByteOrder)
  /-- UTF-32, likewise. -/
  | utf32 (order : Option Encoding.ByteOrder)
  | utf7
  | ascii
  | latin1
  | charset (charset : Encoding.Charset)
  | escaped (form : Encoding.Escaped)
  | multibyte (set : Encoding.Multibyte)
  | iso2022 (variant : Encoding.Iso2022)
  | hz
  /-- A transformation, with the name by which it was called. -/
  | called (name : Text) (transformation : Encoding.Transformation)
  deriving DecidableEq

namespace Encoding

/-! ## Text to bytes -/

/-- Characters that an encoding cannot express. -/
structure Unencodable where
  codec : Text
  /-- How many characters stand before them. -/
  position : Nat
  /-- The first of them. -/
  char : Char
  /-- How many follow one another. -/
  count : Nat
  reason : Text
  deriving DecidableEq

/-- The message about characters that an encoding cannot express. -/
def Unencodable.message (characters : Unencodable) : Text :=
  Text.quoted characters.codec ++ " codec can't encode character".toList ++
    (if characters.count = 1 then
      " '".toList ++ Text.numericEscape characters.char ++ "' in position ".toList ++
        Text.ofNat characters.position
     else
      "s in position ".toList ++ Text.ofNat characters.position ++
        '-' :: Text.ofNat (characters.position + characters.count - 1)) ++
    ": ".toList ++ characters.reason

/-- Why a text has no bytes in an encoding. -/
inductive EncodeFailure where
  | unencodable (characters : Unencodable)
  /-- An encoding of the given name refuses the text as a whole. -/
  | refused (name : Text) (cause : Objection)
  deriving DecidableEq

def EncodeFailure.message : EncodeFailure → Text
  | unencodable characters => characters.message
  | refused name cause => aboutEncoding .encoding name cause.message

/-- Text in an encoding of one byte a character. -/
def encodeBytes (codec reason : Text) (byteOf? : Char → Option UInt8) (text : Text) :
    Except EncodeFailure (List UInt8) :=
  match text.findIdx? (fun c => (byteOf? c).isNone) with
  | none => .ok (text.filterMap byteOf?)
  | some i =>
    let run := (text.drop i).takeWhile (fun c => (byteOf? c).isNone)
    .error <| .unencodable
      { codec := codec, position := i, char := run.headD ' ', count := run.length,
        reason := reason }

/-- The failure at a character that a multi-byte encoding cannot express. -/
def unwritable (codec : String) (place : Nat × Char) : EncodeFailure :=
  .unencodable
    { codec := codec.toList, position := place.1, char := place.2, count := 1,
      reason := Multibyte.illegal }

def byteBelow? (limit : Nat) (c : Char) : Option UInt8 :=
  if c.toNat < limit then some (UInt8.ofNat c.toNat) else none

/-! What messages about one byte a character say: the codec and the reason. -/

def asciiReason : Text × Text := ("ascii".toList, "ordinal not in range(128)".toList)

def latin1Reason : Text × Text := ("latin-1".toList, "ordinal not in range(256)".toList)

def charsetReason : Text × Text := ("charmap".toList, "character maps to <undefined>".toList)

def encode (encoding : Encoding) (text : Text) : Except EncodeFailure (List UInt8) :=
  match encoding with
  | utf8 => .ok (Utf8.encode text)
  | utf8Signed => .ok (Utf8.encode (Char.ofNat orderMark :: text))
  | utf16 none =>
    .ok (ByteOrder.little.bytesOf 2 orderMark ++ text.flatMap (Utf16.encodeChar .little))
  | utf16 (some order) => .ok (text.flatMap (Utf16.encodeChar order))
  | utf32 none =>
    .ok (ByteOrder.little.bytesOf 4 orderMark ++
      text.flatMap fun c => ByteOrder.little.bytesOf 4 c.toNat)
  | utf32 (some order) => .ok (text.flatMap fun c => order.bytesOf 4 c.toNat)
  | ascii => encodeBytes asciiReason.1 asciiReason.2 (byteBelow? 128) text
  | latin1 => encodeBytes latin1Reason.1 latin1Reason.2 (byteBelow? 256) text
  | charset set => encodeBytes charsetReason.1 charsetReason.2 set.byteOf? text
  | utf7 => .ok (Utf7.encode text)
  | escaped form => .ok (form.encode text)
  | multibyte set => (set.writer.write 0 [] text).mapError (unwritable set.codec)
  | iso2022 variant => (variant.write {} 0 0 [] text).mapError (unwritable variant.codec)
  | hz => (Hz.write false 0 [] text).mapError (unwritable Hz.codec)
  | called name transformation =>
    ((transformation.encode text).map Utf8.encode).mapError (.refused name)

/-! ## Bytes to text -/

/-- Bytes that are no text in the encoding with the given name. -/
structure Undecodable where
  codec : Text
  malformed : Malformed
  deriving DecidableEq

def Undecodable.message (bytes : Undecodable) : Text :=
  let position := bytes.malformed.position
  let count := bytes.malformed.run.length
  Text.quoted bytes.codec ++ " codec can't decode byte".toList ++
    (match bytes.malformed.run with
     | [b] => " 0x".toList ++ Text.lowerHex 2 b.toNat ++ " in position ".toList ++
        Text.ofNat position
     | _ => "s in position ".toList ++ Text.ofNat position ++
        '-' :: Text.ofNat (position + count - 1)) ++
    ": ".toList ++ bytes.malformed.reason

/-- How given bytes are to be read. -/
structure Reading where
  /-- The name of the encoding in messages. -/
  codec : Text
  /-- What earlier bytes can leave behind for later ones. -/
  State : Type := Unit
  start : State
  step : State → UInt8 → List UInt8 → State × Front
  /-- The bytes behind an order mark. -/
  body : List UInt8
  /-- How many bytes before the body count in positions. -/
  skipped : Nat := 0
  /-- Whether the byte order had to be told by a mark and no mark was there. -/
  unmarked : Bool := false

/-- A reading in which no byte changes the meaning of later ones. -/
def Reading.plain (codec : Text) (front : UInt8 → List UInt8 → Front) (body : List UInt8) :
    Reading where
  codec := codec
  start := ()
  step := stateless front
  body := body

/-- What stands at the front of bytes of which each is a character or none. -/
def bytewise (reason : Text) (charOf? : UInt8 → Option Char) (b : UInt8) (_ : List UInt8) :
    Front :=
  match charOf? b with
  | some c => .char c 0
  | none => .malformed 0 reason

def charBelow? (limit : Nat) (b : UInt8) : Option Char :=
  if b.toNat < limit then some (Char.ofNat b.toNat) else none

/-- How bytes in units of `size` bytes are to be read: in the given byte order,
or in the one that their order mark tells, or with the lowest byte first. -/
def readingOfUnits (name : Text) (size : Nat) (front : ByteOrder → UInt8 → List UInt8 → Front)
    (bytes : List UInt8) : Option ByteOrder → Reading
  | some order => ordered order bytes
  | none =>
    if bytes.take size = ByteOrder.little.bytesOf size orderMark then
      { ordered .little (bytes.drop size) with skipped := size }
    else if bytes.take size = ByteOrder.big.bytesOf size orderMark then
      { ordered .big (bytes.drop size) with skipped := size }
    else { ordered .little bytes with unmarked := true }
where
  ordered (order : ByteOrder) (body : List UInt8) : Reading :=
    .plain (name ++ (match order with | .little => "-le".toList | .big => "-be".toList))
      (front order) body

/-- How bytes in an encoding are to be read.  The bytes of a transformation are
ASCII. -/
def reading (encoding : Encoding) (bytes : List UInt8) : Reading :=
  match encoding with
  | utf8 => .plain "utf-8".toList Utf8.front bytes
  | utf8Signed =>
    .plain "utf-8".toList Utf8.front
      ((Text.stripFront? (Utf8.encodeChar (Char.ofNat orderMark)) bytes).getD bytes)
  | utf16 order => readingOfUnits "utf-16".toList 2 Utf16.front bytes order
  | utf32 order => readingOfUnits "utf-32".toList 4 Utf32.front bytes order
  | utf7 => .plain "utf7".toList Utf7.front bytes
  | ascii | called _ _ => .plain asciiReason.1 (bytewise asciiReason.2 (charBelow? 128)) bytes
  | latin1 => .plain latin1Reason.1 (bytewise latin1Reason.2 (charBelow? 256)) bytes
  | charset set => .plain charsetReason.1 (bytewise charsetReason.2 set.charOf?) bytes
  | escaped form => .plain form.codec.toList form.front bytes
  | multibyte set => .plain set.codec.toList set.front bytes
  | iso2022 variant =>
    { codec := variant.codec.toList, start := {}, step := variant.step, body := bytes }
  | hz => { codec := Hz.codec.toList, start := false, step := Hz.step, body := bytes }

/-- Read to the end, with what to write for characters and for bytes that are none. -/
def Reading.run {σ : Type} (reading : Reading) (char : Char → σ) (keep : List UInt8 → List σ) :
    Except Undecodable (List σ) :=
  (scan reading.step char keep reading.start 0 0 [] reading.body).mapError fun malformed =>
    { codec := reading.codec
      malformed := { malformed with position := reading.skipped + malformed.position } }

/-- Why captured bytes cannot be had as text. -/
inductive DecodeFailure where
  | undecodable (bytes : Undecodable)
  /-- An encoding of the given name refuses the bytes as a whole. -/
  | refused (name : Text) (cause : Objection)
  deriving DecidableEq

def DecodeFailure.message : DecodeFailure → Text
  | undecodable bytes => bytes.message
  | refused name cause => aboutEncoding .decoding name cause.message

/-- Bytes as captured output. -/
def capture (encoding : Encoding) (bytes : List UInt8) : Except DecodeFailure Capture :=
  match encoding with
  | called name transformation =>
    if bytes.isEmpty then .ok [] else .error (.refused name transformation.whyNotKept)
  | encoding =>
    ((encoding.reading bytes).run Symbol.char strayBytes).mapError .undecodable

/-- Why the bytes of a file are no text. -/
inductive ReadFailure where
  | undecodable (bytes : Undecodable)
  /-- The order mark is missing from a file in the named encoding. -/
  | unmarked (name : Text)
  /-- The encoding refuses the bytes as a whole. -/
  | refused (cause : Objection)
  deriving DecidableEq

def ReadFailure.message : ReadFailure → Text
  | undecodable bytes => bytes.message
  | unmarked name => name ++ " stream does not start with BOM".toList
  | refused cause => cause.message

/-- The name of an encoding whose files must start with an order mark. -/
def markedName? : Encoding → Option Text
  | utf16 none => some "UTF-16".toList
  | utf32 none => some "UTF-32".toList
  | _ => none

/-- Where the parts of the bytes that are read apart begin, if a byte of the given
position is malformed: positions in messages count from there. -/
def partStart (encoding : Encoding) (bytes : List UInt8) (position : Nat) : Nat :=
  match encoding with
  | called _ .punycode =>
    let behind := (bytes.reverse.takeWhile (· ≠ 0x2D)).length
    if behind < bytes.length ∧ bytes.length - behind ≤ position then bytes.length - behind else 0
  | _ => 0

/-- The bytes of a file as text.  A file that ends within a signature is empty,
and one that is not empty must tell its byte order. -/
def decodeFile (encoding : Encoding) (bytes : List UInt8) : Except ReadFailure Text :=
  let signature := Utf8.encodeChar (Char.ofNat orderMark)
  let reading := encoding.reading bytes
  if encoding = utf8Signed ∧ bytes.length < signature.length ∧ bytes.isPrefixOf signature then
    .ok []
  else
    match reading.run id (fun _ => []), encoding with
    | _, called _ .undefinedEncoding => .error (.refused .undefinedEncoding)
    | .error undecodable, encoding =>
      let position := undecodable.malformed.position
      let start := encoding.partStart bytes position
      .error <| .undecodable
        { undecodable with
          malformed := { undecodable.malformed with position := position - start } }
    | .ok text, called _ transformation => (transformation.decode text).mapError .refused
    | .ok text, encoding =>
      match encoding.markedName? with
      | some name =>
        if reading.unmarked && !bytes.isEmpty then .error (.unmarked name) else .ok text
      | none => .ok text

end Encoding

end SchemeCheck

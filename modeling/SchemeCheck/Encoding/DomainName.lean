import SchemeCheck.Encoding.Punycode

/-!
# SchemeCheck.Encoding.DomainName

Domain names with any characters.  A name is a row of labels between dots.  A
label that is not ASCII is prepared, so that small differences in writing do not
matter, and then written in Punycode behind a mark.  The letters that are
prepared are those of the Latin, Greek and Cyrillic alphabets and the full-width
forms of ASCII.
-/

namespace SchemeCheck.Encoding.DomainName

/-- The mark of an encoded label. -/
def mark : Text := "xn--".toList

def maxLabel : Nat := 63

/-- The characters that separate labels. -/
def dots : Text := ".。．｡".toList

def isAscii (text : Text) : Bool :=
  text.all fun c => c.toNat < 0x80

/-! ## Preparing a label -/

/-- Ranges of capital letters: the first, the last, and how far the small letters
are. -/
def capitals : List (Nat × Nat × Nat) :=
  [(0x41, 0x5A, 32), (0xC0, 0xD6, 32), (0xD8, 0xDE, 32), (0x391, 0x3A1, 32), (0x3A3, 0x3AB, 32),
   (0x400, 0x40F, 80), (0x410, 0x42F, 32), (0x531, 0x556, 48)]

/-- Ranges in which every other character is a capital, starting with the first;
the small letter follows it. -/
def alternating : List (Nat × Nat) :=
  [(0x100, 0x12F), (0x132, 0x137), (0x139, 0x148), (0x14A, 0x177), (0x179, 0x17E),
   (0x1CD, 0x1DC), (0x1DE, 0x1EF), (0x1F8, 0x21F), (0x222, 0x233), (0x460, 0x481),
   (0x48A, 0x4BF), (0x4C1, 0x4CE), (0x4D0, 0x4F5), (0x1E00, 0x1E95), (0x1EA0, 0x1EF9)]

/-- Characters that are prepared in their own way. -/
def singles : List (Char × String) :=
  [('ß', "ss"), ('ſ', "s"), ('µ', "μ"), ('ς', "σ"), ('Ÿ', "ÿ"), ('İ', "i\u0307"), ('Ά', "ά"),
   ('Έ', "έ"), ('Ή', "ή"), ('Ί', "ί"), ('Ό', "ό"), ('Ύ', "ύ"), ('Ώ', "ώ"), ('ª', "a"), ('º', "o"),
   ('²', "2"), ('³', "3"), ('¹', "1"), ('¼', "1⁄4"), ('½', "1⁄2"), ('¾', "3⁄4"), ('…', "..."),
   ('™', "tm"), ('℃', "°c"), ('Å', "å"), ('Ω', "ω"), ('K', "k"), ('ﬁ', "fi"), ('ﬂ', "fl")]

/-- The characters that are left out. -/
def leftOut : List Nat :=
  [0xAD, 0x34F, 0x1806, 0x180B, 0x180C, 0x180D, 0x200B, 0x200C, 0x200D, 0x2060, 0xFEFF] ++
    (List.range 16).map (0xFE00 + ·)

/-- The characters that are prepared as a blank. -/
def blanks : List Nat :=
  [0xA0, 0x202F, 0x205F, 0x3000] ++ (List.range 11).map (0x2000 + ·)

/-- What a character is prepared as. -/
def preparedChar (c : Char) : Text :=
  let n := c.toNat
  let narrow := if 0xFF01 ≤ n ∧ n ≤ 0xFF5E then n - 0xFEE0 else n
  if leftOut.contains n then []
  else if blanks.contains n then [' ']
  else
    match singles.lookup c with
    | some text => text.toList
    | none =>
      match capitals.find? fun (first, last, _) => decide (first ≤ narrow ∧ narrow ≤ last) with
      | some (_, _, offset) => [Char.ofNat (narrow + offset)]
      | none =>
        match alternating.find? fun (first, last) => decide (first ≤ n ∧ n ≤ last) with
        | some (first, _) => [if (n - first) % 2 = 0 then Char.ofNat (n + 1) else c]
        | none => [Char.ofNat narrow]

/-- Ranges of characters that no label may hold: blanks, controls, private and
unassigned characters, and those that only describe or steer. -/
def forbiddenRanges : List (Nat × Nat) :=
  [(0x80, 0xA0), (0x340, 0x341), (0x6DD, 0x6DD), (0x70F, 0x70F), (0x1680, 0x1680),
   (0x180E, 0x180E), (0x2000, 0x200F), (0x2028, 0x202F), (0x205F, 0x2063), (0x206A, 0x206F),
   (0x2FF0, 0x2FFB), (0x3000, 0x3000), (0xD800, 0xF8FF), (0xFDD0, 0xFDEF), (0xFEFF, 0xFEFF),
   (0xFFF9, 0xFFFF), (0x1D173, 0x1D17A), (0x1FFFE, 0x1FFFF), (0x2FFFE, 0x2FFFF),
   (0x3FFFE, 0x3FFFF), (0x4FFFE, 0x4FFFF), (0x5FFFE, 0x5FFFF), (0x6FFFE, 0x6FFFF),
   (0x7FFFE, 0x7FFFF), (0x8FFFE, 0x8FFFF), (0x9FFFE, 0x9FFFF), (0xAFFFE, 0xAFFFF),
   (0xBFFFE, 0xBFFFF), (0xCFFFE, 0xCFFFF), (0xDFFFE, 0xDFFFF), (0xE0001, 0xE0001),
   (0xE0020, 0xE007F), (0xEFFFE, 0x10FFFF)]

def liesIn (ranges : List (Nat × Nat)) (c : Char) : Bool :=
  ranges.any fun (first, last) => decide (first ≤ c.toNat ∧ c.toNat ≤ last)

/-- Ranges of letters that are written from right to left. -/
def rightToLeft : List (Nat × Nat) :=
  [(0x5BE, 0x5BE), (0x5C0, 0x5C0), (0x5C3, 0x5C3), (0x5D0, 0x5EA), (0x5F0, 0x5F4),
   (0x61B, 0x61B), (0x61F, 0x61F), (0x621, 0x63A), (0x640, 0x64A), (0x66D, 0x66F),
   (0x671, 0x6D5), (0x6DD, 0x6DD), (0x6E5, 0x6E6), (0x6FA, 0x6FE), (0x700, 0x70D),
   (0x710, 0x710), (0x712, 0x72C), (0x780, 0x7A5), (0x7B1, 0x7B1)]

/-- Ranges of letters that are written from left to right. -/
def leftToRight : List (Nat × Nat) :=
  [(0x41, 0x5A), (0x61, 0x7A), (0xAA, 0xAA), (0xB5, 0xB5), (0xBA, 0xBA), (0xC0, 0xD6),
   (0xD8, 0xF6), (0xF8, 0x220), (0x222, 0x233), (0x250, 0x2AD), (0x370, 0x373), (0x386, 0x3FF),
   (0x400, 0x482), (0x48A, 0x559), (0x561, 0x589), (0x904, 0x939), (0xE01, 0xE30),
   (0x10A0, 0x11F9), (0x1E00, 0x1FFC), (0x3041, 0x3096), (0x30A1, 0x30FA), (0x3400, 0x9FFF),
   (0xAC00, 0xD7A3)]

/-- A label, prepared. -/
def prepared (label : Text) : Except Objection Text := do
  let label := label.flatMap preparedChar
  match label.find? (liesIn forbiddenRanges) with
  | some c => throw (.forbidden c)
  | none =>
    if label.any (liesIn rightToLeft) then
      if label.any (liesIn leftToRight) then throw .mixedDirections
      if !(label.head?.any (liesIn rightToLeft) && label.getLast?.any (liesIn rightToLeft)) then
        throw .unboundedDirection
    return label

/-! ## Writing -/

/-- A label of ASCII characters, if its size is right. -/
def sized (label : Text) : Except Objection Text :=
  if 0 < label.length ∧ label.length ≤ maxLabel then .ok label else .error .labelSize

def encodeLabel (label : Text) : Except Objection Text := do
  if isAscii label then sized label
  else
    let label ← prepared label
    if isAscii label then sized label
    else if mark.isPrefixOf label then throw .encodedLabel
    else sized (mark ++ Punycode.encode label)

/-- The labels of a name: the text between separators. -/
def labels (separators : Text) (name : Text) : List Text :=
  name.foldr (fun c parts =>
    if separators.contains c then [] :: parts
    else match parts with
      | [] => [[c]]
      | part :: parts => (c :: part) :: parts) [[]]

/-- The labels of a name without an empty one at its end, and the dot that stands
for that one. -/
def withoutLast (labels : List Text) : List Text × Text :=
  if labels.getLast? = some [] then (labels.dropLast, ['.']) else (labels, [])

def encode (name : Text) : Except Objection Text := do
  if name.isEmpty then return []
  else if isAscii name then
    let parts := labels ['.'] name
    for label in parts.dropLast do
      let _ ← sized label
    if maxLabel < (parts.getLast?.getD []).length then throw .labelTooLong
    return name
  else
    let (parts, dot) := withoutLast (labels dots name)
    return Text.joinWith ['.'] (← parts.mapM encodeLabel) ++ dot

/-! ## Reading -/

/-- The characters of a text in front of its last hyphen, and behind it. -/
def cutAtLastHyphen (text : Text) : Text × Text :=
  let behind := (text.reverse.takeWhile (· ≠ '-')).reverse
  (text.take (text.length - behind.length - 1), behind)

def decodeLabel (label : Text) : Except Objection Text :=
  match Text.stripFront? mark label with
  | none => .ok label
  | some rest => do
    let (base, numbers) := cutAtLastHyphen rest
    let text ← (Punycode.decode base numbers).mapError (.inside "punycode".toList)
    let again ← encodeLabel text
    if label.map Char.toLower = again then return text else throw (.unfaithful label again)

def decode (name : Text) : Except Objection Text := do
  if name.isEmpty then return []
  else
    let (parts, dot) := withoutLast (labels ['.'] name)
    return Text.joinWith ['.'] (← parts.mapM decodeLabel) ++ dot

end SchemeCheck.Encoding.DomainName

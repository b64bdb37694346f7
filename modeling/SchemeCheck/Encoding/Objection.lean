import SchemeCheck.Text.Quoted

/-!
# SchemeCheck.Encoding.Objection

Why an encoding refuses a text or bytes as a whole.
-/

namespace SchemeCheck.Encoding

/-- Why an encoding refuses a text or bytes as a whole. -/
inductive Objection where
  /-- It is no encoding at all. -/
  | undefinedEncoding
  /-- It cannot keep bytes that are no text. -/
  | cannotKeep
  /-- The label of a domain name is empty or too long. -/
  | labelSize
  /-- The last label of a domain name is too long. -/
  | labelTooLong
  /-- A label starts like one that is encoded already. -/
  | encodedLabel
  /-- A label holds a character that no label may hold. -/
  | forbidden (c : Char)
  /-- A label mixes both directions of writing. -/
  | mixedDirections
  /-- A label written from right to left does not start and end so. -/
  | unboundedDirection
  /-- A label is not what its decoded form is encoded as. -/
  | unfaithful (label again : Text)
  /-- Digits end within a number. -/
  | incompleteNumber
  | noDigit (c : Char)
  /-- There is no character with a number. -/
  | noCharacter (n : Nat)
  /-- A part in another encoding is refused. -/
  | inside (encoding : Text) (cause : Objection)
  deriving DecidableEq

/-- What the direction of an encoding is called in messages. -/
inductive Direction where
  | encoding
  | decoding
  deriving DecidableEq

def Direction.word : Direction → Text
  | encoding => "encoding".toList
  | decoding => "decoding".toList

/-- A message about an encoding of the given name. -/
def aboutEncoding (direction : Direction) (name message : Text) : Text :=
  direction.word ++ " with '".toList ++ name ++ "' codec failed (UnicodeError: ".toList ++
    message ++ [')']

def Objection.message : Objection → Text
  | undefinedEncoding => "undefined encoding".toList
  | cannotKeep => "Unsupported error handling surrogateescape".toList
  | labelSize => "label empty or too long".toList
  | labelTooLong => "label too long".toList
  | encodedLabel => "Label starts with ACE prefix".toList
  | forbidden c => "Invalid character ".toList ++ Text.quoted [c]
  | mixedDirections => "Violation of BIDI requirement 2".toList
  | unboundedDirection => "Violation of BIDI requirement 3".toList
  | unfaithful label again =>
    "('IDNA does not round-trip', b".toList ++ Text.quoted label ++ ", b".toList ++
      Text.quoted again ++ [')']
  | incompleteNumber => "incomplete punicode string".toList
  | noDigit c => "Invalid extended code point '".toList ++ [c, '\'']
  | noCharacter n => "Invalid character U+".toList ++ Nat.toDigits 16 n
  | inside encoding cause => aboutEncoding .decoding encoding cause.message

end SchemeCheck.Encoding

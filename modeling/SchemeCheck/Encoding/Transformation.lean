import SchemeCheck.Encoding.DomainName

/-!
# SchemeCheck.Encoding.Transformation

Encodings that make one ASCII text of another, and take it as a whole.
-/

namespace SchemeCheck.Encoding

/-- An encoding that takes a text as a whole. -/
inductive Transformation where
  | punycode
  | domainName
  /-- The encoding that accepts nothing. -/
  | undefinedEncoding
  deriving DecidableEq

namespace Transformation

/-- The ASCII text for a text. -/
def encode (text : Text) : Transformation → Except Objection Text
  | punycode => .ok (Punycode.encode text)
  | domainName => DomainName.encode text
  | undefinedEncoding => .error .undefinedEncoding

/-- The text for an ASCII text. -/
def decode (text : Text) : Transformation → Except Objection Text
  | punycode =>
    let (base, numbers) := DomainName.cutAtLastHyphen text
    Punycode.decode base numbers
  | domainName => DomainName.decode text
  | undefinedEncoding => .error .undefinedEncoding

/-- Why bytes that are no text cannot be kept. -/
def whyNotKept : Transformation → Objection
  | undefinedEncoding => .undefinedEncoding
  | _ => .cannotKeep

end Transformation

end SchemeCheck.Encoding

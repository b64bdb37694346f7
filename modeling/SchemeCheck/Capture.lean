import SchemeCheck.Text.Basic

/-!
# SchemeCheck.Capture

Captured output.  A program may write bytes that are no text in the agreed
encoding; such a byte is kept as a symbol of its own, so that nothing of the
output is lost and it still can be compared and shown line by line.
-/

namespace SchemeCheck

/-- One symbol of captured output: a character, or a byte that is no text. -/
inductive Symbol where
  | char (c : Char)
  | byte (b : UInt8)
  deriving DecidableEq

/-- Captured output, and every message that quotes some. -/
abbrev Capture := List Symbol

namespace Capture

/-- Declared text as a capture. -/
def ofText (text : Text) : Capture :=
  text.map Symbol.char

/-- How a symbol is printed where only text can be printed: a stray byte by
the number `dcXX` that stands for it. -/
def Symbol.printed : Symbol → Text
  | .char c => [c]
  | .byte b => '\\' :: 'u' :: Text.lowerHex 4 (0xDC00 + b.toNat)

def printed (capture : Capture) : Text :=
  capture.flatMap Symbol.printed

end Capture

end SchemeCheck

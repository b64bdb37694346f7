import SchemeCheck.Capture

/-!
# SchemeCheck.CommandLine.Printed

What becomes of text that the command line prints.  A program's output may
hold control sequences for a terminal; they are left out, so that a report can
be stored and compared.  Every line ends in a line feed alone.
-/

namespace SchemeCheck.CommandLine

/-- Whether a symbol is a character with a number between two others. -/
def isBetween (low high : Nat) : Symbol → Bool
  | .char c => low ≤ c.toNat && c.toNat ≤ high
  | .byte _ => false

/-- The symbol that starts a control sequence. -/
def escapeSymbol : Symbol := .char '\x1b'

/-- How many symbols after the escape symbol belong to a control sequence: a
bracket, parameters, symbols in between and a final one. -/
def sequenceSize? : Capture → Option Nat
  | .char '[' :: rest =>
    let parameters := (rest.takeWhile (isBetween 0x30 0x3F)).length
    let between := ((rest.drop parameters).takeWhile (isBetween 0x20 0x2F)).length
    match rest.drop (parameters + between) with
    | last :: _ => if isBetween 0x40 0x7E last then some (parameters + between + 2) else none
    | [] => none
  | _ => none

/-- Output without control sequences. -/
def withoutSequences (output : Capture) : Capture :=
  Text.sweep (fun x rest =>
    if x = escapeSymbol then
      match sequenceSize? rest with
      | some size => ([], size)
      | none => ([x], 0)
    else ([x], 0)) 0 [] output

/-- The text with every line end as a line feed alone. -/
def withLineFeeds (text : Text) : Text :=
  Text.replaceAll ['\r', '\n'] ['\n'] text

/-- Output as it is printed. -/
def printed (output : Capture) : Text :=
  withLineFeeds (withoutSequences output).printed

end SchemeCheck.CommandLine

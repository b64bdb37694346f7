import SchemeCheck.Text.Basic

/-!
# SchemeCheck.Text.ShellWords

A line as the words that a shell sees in it.  Blanks separate words; quotes
and backslashes keep them together.  A backslash keeps any character, but
between double quotes only a double quote and a backslash, and between single
quotes it is a character like others.
-/

namespace SchemeCheck.Text

/-- What the next character of a line belongs to. -/
inductive ShellMode where
  | plain
  /-- Text between quotes. -/
  | quoted (quote : Char)
  /-- What a backslash keeps, inside of quotes or not. -/
  | escaped (inside : Option Char)
  deriving DecidableEq

/-- A line as far as it is read.  Words and their characters are kept in
reverse. -/
structure ShellReading where
  mode : ShellMode := .plain
  /-- The word being read. -/
  word : Option Text := none
  done : List Text := []

namespace ShellReading

def separates (c : Char) : Bool :=
  c = ' ' || c = '\t' || c = '\r' || c = '\n'

/-- The word being read goes on with characters. -/
def extend (reading : ShellReading) (mode : ShellMode) (more : Text) : ShellReading :=
  { reading with mode := mode, word := some (more.reverse ++ reading.word.getD []) }

/-- The words so far, with the one being read. -/
def words (reading : ShellReading) : List Text :=
  ((reading.word.toList ++ reading.done).map List.reverse).reverse

/-- Read one more character. -/
def step (reading : ShellReading) (c : Char) : ShellReading :=
  match reading.mode with
  | .plain =>
    if separates c then { done := reading.word.toList ++ reading.done }
    else if c = '"' || c = '\'' then reading.extend (.quoted c) []
    else if c = '\\' then reading.extend (.escaped none) []
    else reading.extend .plain [c]
  | .quoted quote =>
    if c = quote then reading.extend .plain []
    else if c = '\\' && quote = '"' then reading.extend (.escaped (some quote)) []
    else reading.extend (.quoted quote) [c]
  | .escaped none => reading.extend .plain [c]
  | .escaped (some quote) =>
    reading.extend (.quoted quote) (if c = '\\' || c = quote then [c] else ['\\', c])

end ShellReading

/-- A line read to its end. -/
def readShellLine (line : Text) : ShellReading :=
  line.foldl ShellReading.step {}

/-- Why a line is not complete. -/
inductive ShellFault where
  | openQuote
  | openEscape
  deriving DecidableEq

def ShellFault.message : ShellFault → Text
  | openQuote => "No closing quotation".toList
  | openEscape => "No escaped character".toList

/-- The words of a complete line. -/
def shellWords (line : Text) : Except ShellFault (List Text) :=
  let reading := readShellLine line
  match reading.mode with
  | .plain => .ok reading.words
  | .quoted _ => .error .openQuote
  | .escaped _ => .error .openEscape

/-- The words of a line that may end within one. -/
def shellWordsSoFar (line : Text) : List Text :=
  (readShellLine line).words

end SchemeCheck.Text

import SchemeCheck.Text.Basic

/-!
# SchemeCheck.Document

Documents that are written as JSON, with every entry on a line of its own.
-/

namespace SchemeCheck

/-- A document. -/
inductive Document where
  | text (text : Text)
  | number (n : Int)
  | truth (b : Bool)
  | list (items : List Document)
  | table (entries : List (Text × Document))

namespace Document

/-- One character inside a written text. -/
def writtenChar (c : Char) : Text :=
  if c = '"' || c = '\\' then ['\\', c]
  else if c = '\n' then ['\\', 'n']
  else if c = '\r' then ['\\', 'r']
  else if c = '\t' then ['\\', 't']
  else if c.toNat = 8 then ['\\', 'b']
  else if c.toNat = 12 then ['\\', 'f']
  else if c.toNat < 32 then '\\' :: 'u' :: Text.lowerHex 4 c.toNat
  else [c]

def writtenText (text : Text) : Text :=
  '"' :: text.flatMap writtenChar ++ ['"']

/-- Entries between brackets, one on a line, indented by two blanks more than
what is around them. -/
def bracketed (depth : Nat) (opening closing : Char) (entries : List Text) : Text :=
  if entries.isEmpty then [opening, closing]
  else
    let pad := '\n' :: Text.spaces (2 * (depth + 1))
    opening :: pad ++ Text.joinWith (',' :: pad) entries ++
      '\n' :: Text.spaces (2 * depth) ++ [closing]

mutual

/-- Write a document inside `depth` others. -/
def writtenAt (depth : Nat) : Document → Text
  | .text content => writtenText content
  | .number n => Text.ofInt n
  | .truth b => if b then "true".toList else "false".toList
  | .list items => bracketed depth '[' ']' (writtenItems (depth + 1) items)
  | .table entries => bracketed depth '\x7b' '\x7d' (writtenEntries (depth + 1) entries)

def writtenItems (depth : Nat) : List Document → List Text
  | [] => []
  | item :: rest => writtenAt depth item :: writtenItems depth rest

def writtenEntries (depth : Nat) : List (Text × Document) → List Text
  | [] => []
  | (key, value) :: rest =>
    (writtenText key ++ ": ".toList ++ writtenAt depth value) :: writtenEntries depth rest

end

def written (document : Document) : Text :=
  document.writtenAt 0

end Document

end SchemeCheck

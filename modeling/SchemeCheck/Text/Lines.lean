import SchemeCheck.Text.Basic

/-!
# SchemeCheck.Text.Lines

Line segmentation.  Lines are separated by line feeds only; one carriage
return before a line feed (or at the end of the text) is dropped; a line feed
at the very end starts no further line.

Segmentation is written for any kind of symbol, because it is applied both to
declared text and to captured output.
-/

namespace SchemeCheck.Text

variable {σ : Type} [DecidableEq σ]

/-- The pieces without an empty last one. -/
def dropEmptyLast (chunks : List (List σ)) : List (List σ) :=
  match chunks.getLast? with
  | some [] => chunks.dropLast
  | _ => chunks

/-- The line without one `cr` at its end. -/
def chomp (cr : σ) (line : List σ) : List σ :=
  if line.getLast? = some cr then line.dropLast else line

/-- The bodies of the lines of a text whose lines end in `lf`, each without
one trailing `cr`. -/
def cutLines (lf cr : σ) (xs : List σ) : List (List σ) :=
  (dropEmptyLast (splitOn lf xs)).map (chomp cr)

/-- The bodies of the lines of a text. -/
def lineBodies (text : Text) : List Text :=
  cutLines '\n' '\r' text

/-- The lines of a text, each closed by exactly one line feed. -/
def lines (text : Text) : List Text :=
  (lineBodies text).map (· ++ ['\n'])

/-- The first line body that is longer than `limit`, with its number. -/
def firstOverlong? (limit : Int) (bodies : List Text) : Option (Text × Nat) :=
  bodies.zipIdx.find? (fun entry => decide (limit < entry.1.length))

end SchemeCheck.Text

import SchemeCheck.Capture
import SchemeCheck.Diff.Script

/-!
# SchemeCheck.Diff.Unified

Unified diffs.  The differences between two rows of lines are shown in hunks,
each with up to three common lines before and after; differences that are at
most six common lines apart share a hunk.  A hunk is headed by the ranges of
lines it covers on either side.
-/

namespace SchemeCheck.Diff

variable {α : Type}

/-- How many common lines are shown on either side of a difference. -/
def contextSize : Nat := 3

/-- A hunk: where it starts on either side, counted from zero, and its part of
the script. -/
structure Hunk (α : Type) where
  leftStart : Nat
  rightStart : Nat
  body : List (Stretch α)

def Hunk.push (hunk : Hunk α) (stretch : Stretch α) : Hunk α :=
  { hunk with body := hunk.body ++ [stretch] }

/-- Whether the hunk shows a difference. -/
def Hunk.differs (hunk : Hunk α) : Bool :=
  hunk.body.any fun
    | .same _ => false
    | .change _ _ => true

def lastLines (lines : List α) : List α :=
  lines.drop (lines.length - contextSize)

/-- Cut a script into hunks.  `left` and `right` are the places that have been
reached; the hunk at hand ends where common lines are too many to be shown,
and there the next one starts.  At the end of the script only the first of the
common lines are shown. -/
def hunksFrom (left right : Nat) (hunk : Hunk α) : List (Stretch α) → List (Hunk α)
  | [] => if hunk.differs then [hunk] else []
  | .change removed added :: rest =>
    hunksFrom (left + removed.length) (right + added.length) (hunk.push (.change removed added)) rest
  | [.same lines] =>
    let hunk := hunk.push (.same (lines.take contextSize))
    if hunk.differs then [hunk] else []
  | .same lines :: rest =>
    let size := lines.length
    if 2 * contextSize < size then
      let next : Hunk α :=
        { leftStart := left + size - contextSize
          rightStart := right + size - contextSize
          body := [.same (lastLines lines)] }
      hunk.push (.same (lines.take contextSize)) ::
        hunksFrom (left + size) (right + size) next rest
    else
      hunksFrom (left + size) (right + size) (hunk.push (.same lines)) rest

/-- The hunks of a script.  Of common lines at its start only the last are
shown. -/
def hunks (script : List (Stretch α)) : List (Hunk α) :=
  match script with
  | .same lines :: rest =>
    let size := lines.length
    let start := size - contextSize
    hunksFrom size size
      { leftStart := start, rightStart := start, body := [.same (lastLines lines)] } rest
  | _ => hunksFrom 0 0 { leftStart := 0, rightStart := 0, body := [] } script

/-- A range of lines in a hunk's head: the number of its first line, and its
length unless that is one.  An empty range names the line before it. -/
def rangeText (start length : Nat) : Text :=
  if length = 1 then Text.ofNat (start + 1)
  else
    Text.ofNat (if length = 0 then start else start + 1) ++ ',' :: Text.ofNat length

def Hunk.headText (hunk : Hunk α) : Text :=
  "@@ -".toList ++ rangeText hunk.leftStart (before hunk.body).length ++ " +".toList ++
    rangeText hunk.rightStart (after hunk.body).length ++ " @@".toList

/-- The lines of a stretch, marked by a blank, `-` or `+`. -/
def Stretch.marked : Stretch Capture → List Capture
  | .same lines => lines.map (Symbol.char ' ' :: ·)
  | .change removed added =>
    removed.map (Symbol.char '-' :: ·) ++ added.map (Symbol.char '+' :: ·)

/-- The lines of a hunk, its head first. -/
def Hunk.render (hunk : Hunk Capture) : List Capture :=
  Capture.ofText hunk.headText :: hunk.body.flatMap Stretch.marked

/-- The lines of a unified diff between two rows under their names. -/
def unified (leftName rightName : Text) (a b : List Capture) : List Capture :=
  Capture.ofText ("--- ".toList ++ leftName) :: Capture.ofText ("+++ ".toList ++ rightName) ::
    (hunks (script a b)).flatMap Hunk.render

end SchemeCheck.Diff

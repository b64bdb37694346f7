import SchemeCheck.Diff.Matching

/-!
# SchemeCheck.Diff.Script

Edit scripts.  A script describes two rows of lines at once, as stretches that
both have and stretches in which they differ; the left row and the right row
are read off it.
-/

namespace SchemeCheck.Diff

variable {α : Type}

/-- A stretch of an edit script. -/
inductive Stretch (α : Type) where
  /-- Lines that both rows have. -/
  | same (lines : List α)
  /-- Lines of the left row, in place of which the right row has others. -/
  | change (removed added : List α)

namespace Stretch

/-- The lines of the left row. -/
def before : Stretch α → List α
  | .same lines => lines
  | .change removed _ => removed

/-- The lines of the right row. -/
def after : Stretch α → List α
  | .same lines => lines
  | .change _ added => added

end Stretch

/-- The left row of a script. -/
def before (script : List (Stretch α)) : List α :=
  script.flatMap Stretch.before

/-- The right row of a script. -/
def after (script : List (Stretch α)) : List α :=
  script.flatMap Stretch.after

/-- Put a stretch of common lines in front; common lines that follow join it. -/
def consSame (lines : List α) : List (Stretch α) → List (Stretch α)
  | .same more :: rest => .same (lines ++ more) :: rest
  | script => .same lines :: script

/-- Put a difference in front, unless neither side has lines. -/
def consChange (removed added : List α) (script : List (Stretch α)) : List (Stretch α) :=
  if removed.isEmpty && added.isEmpty then script else .change removed added :: script

/-- The lines from place `low` up to, not including, place `high`. -/
def slice (low high : Nat) (lines : List α) : List α :=
  (lines.drop low).take (high - low)

/-- The script of two rows from the given places on, by the runs that match
them. -/
def scriptFrom (a b : List α) (left right : Nat) : List Match → List (Stretch α)
  | [] => consChange (a.drop left) (b.drop right) []
  | m :: rest =>
    consChange (slice left m.left a) (slice right m.right b)
      (consSame (slice m.left (m.left + m.size) a)
        (scriptFrom a b (m.left + m.size) (m.right + m.size) rest))

/-- The script that leads from one row to the other. -/
def script [DecidableEq α] (a b : List α) : List (Stretch α) :=
  scriptFrom a b 0 0 (matching a b)

end SchemeCheck.Diff

/-!
# SchemeCheck.Diff.Matching

Matching two rows of lines.  The longest run of equal lines is found first
(the one that starts earliest in the left row, then in the right one), then,
in the same way, what lies before it and what lies after it.

Runs are found from anchors, the places where a line of the left row occurs
in the right one.  Lines that occur very often in a long right row are no
anchors; runs still grow over them.
-/

namespace SchemeCheck.Diff

/-- A run of equal lines: where it starts on either side, and its length. -/
structure Match where
  left : Nat
  right : Nat
  size : Nat
  deriving DecidableEq

/-- A part of both rows. -/
structure Window where
  leftLow : Nat
  leftHigh : Nat
  rightLow : Nat
  rightHigh : Nat

variable {α : Type} [DecidableEq α]

/-- A right row of this length and more has popular lines. -/
def popularRowSize : Nat := 200

/-- The places where a line occurs in the right row, unless they are too many
for the line to be an anchor. -/
def anchors (right : Array α) (line : α) : List Nat :=
  let places := (List.range right.size).filter fun j => decide (right[j]? = some line)
  if popularRowSize ≤ right.size ∧ right.size / 100 + 1 < places.length then [] else places

/-- The runs that end at the given anchors, from those that end one line
earlier: each as the place of its end and its length, in ascending order. -/
def extendRuns : List Nat → List (Nat × Nat) → List (Nat × Nat)
  | [], _ => []
  | j :: js, earlier =>
    let later := earlier.dropWhile fun run => decide (run.1 + 1 < j)
    let size :=
      match later with
      | run :: _ => if run.1 + 1 = j then run.2 + 1 else 1
      | [] => 1
    (j, size) :: extendRuns js later

/-- The longer of the best run so far and one that ends at lines `i` and `j`. -/
def improve (i : Nat) (best : Match) (run : Nat × Nat) : Match :=
  if best.size < run.2 then
    { left := i + 1 - run.2, right := run.1 + 1 - run.2, size := run.2 }
  else best

/-- The first of the longest runs of anchored lines in a window. -/
def longestAnchored (places : Array (List Nat)) (w : Window) : Match :=
  ((List.range' w.leftLow (w.leftHigh - w.leftLow)).foldl (fun (runs, best) i =>
      let here := (places[i]?.getD []).filter fun j =>
        decide (w.rightLow ≤ j) && decide (j < w.rightHigh)
      let runs := extendRuns here runs
      (runs, runs.foldl (improve i) best))
    ([], { left := w.leftLow, right := w.rightLow, size := 0 })).2

/-- Let a run grow to the left over equal lines, by at most `fuel` lines. -/
def growBack (a b : Array α) (w : Window) : (fuel : Nat) → Match → Match
  | 0, m => m
  | fuel + 1, m =>
    if w.leftLow < m.left ∧ w.rightLow < m.right ∧ a[m.left - 1]? = b[m.right - 1]? then
      growBack a b w fuel { left := m.left - 1, right := m.right - 1, size := m.size + 1 }
    else m

/-- Let a run grow to the right over equal lines, by at most `fuel` lines. -/
def growForward (a b : Array α) (w : Window) : (fuel : Nat) → Match → Match
  | 0, m => m
  | fuel + 1, m =>
    if m.left + m.size < w.leftHigh ∧ m.right + m.size < w.rightHigh ∧
        a[m.left + m.size]? = b[m.right + m.size]? then
      growForward a b w fuel { m with size := m.size + 1 }
    else m

/-- The longest run of equal lines in a window. -/
def longestMatch (a b : Array α) (places : Array (List Nat)) (w : Window) : Match :=
  growForward a b w a.size (growBack a b w a.size (longestAnchored places w))

/-- The runs in a window, in order.  Every run makes the windows before and
after it shorter, so `fuel` lines of the left row suffice. -/
def matchesWithin (a b : Array α) (places : Array (List Nat)) : (fuel : Nat) → Window → List Match
  | 0, _ => []
  | fuel + 1, w =>
    let m := longestMatch a b places w
    if m.size = 0 then []
    else
      matchesWithin a b places fuel { w with leftHigh := m.left, rightHigh := m.right } ++
        m :: matchesWithin a b places fuel
          { w with leftLow := m.left + m.size, rightLow := m.right + m.size }

/-- The runs of equal lines that two rows are matched by, in order. -/
def matching (a b : List α) : List Match :=
  let left := a.toArray
  let right := b.toArray
  matchesWithin left right (left.map (anchors right)) (left.size + 1)
    { leftLow := 0, leftHigh := left.size, rightLow := 0, rightHigh := right.size }

end SchemeCheck.Diff

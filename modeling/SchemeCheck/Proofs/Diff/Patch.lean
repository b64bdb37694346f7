import Mathlib.Tactic.ByContra
import SchemeCheck.Proofs.Diff.Hunks
import SchemeCheck.Proofs.Text.Lines

/-!
# SchemeCheck.Proofs.Diff.Patch

Hunks as a patch.  A hunk is read by what its head says and by the marks of its lines
(`Portion`), and a row of them is applied to lines strictly: where a portion is to be
applied, the lines that it keeps and removes must stand (`applyFrom`).  Nothing here
looks at the lines themselves, so it does not matter what they hold.

The main statements are that the hunks of a script are read as they are rendered
(`readOn_render`), and that they take one side of the script to the other one
(`Leads.applyFrom_eq`).
-/

namespace SchemeCheck

/-! ## Numbers -/

namespace Text

theorem digitsValue_ofNat (n : Nat) : digitsValue (ofNat n) = n := by
  have hvalue : digitsValue (ofNat n) = Nat.ofDigitChars 10 (ofNat n) 0 := by
    unfold digitsValue Nat.ofDigitChars
    congr 1
    funext value c
    rw [Nat.mul_comm]
    rfl
  rw [hvalue]
  exact Nat.ofDigitChars_toDigits (by decide) (by decide)

theorem isDigit_of_mem_ofNat {n : Nat} {c : Char} (h : c ∈ ofNat n) : isDigit c = true :=
  Nat.isDigit_of_mem_toDigits (by decide) (by decide) h

theorem ofNat_ne_nil (n : Nat) : ofNat n ≠ [] :=
  Nat.toDigits_ne_nil

end Text

namespace Diff

variable {α : Type}

/-! ## Portions -/

/-- A line of a hunk, by its mark. -/
inductive Edit (α : Type) where
  | keep (line : α)
  | remove (line : α)
  | add (line : α)
  deriving DecidableEq

namespace Edit

def before : Edit α → List α
  | keep line | remove line => [line]
  | add _ => []

def after : Edit α → List α
  | keep line | add line => [line]
  | remove _ => []

def isChange : Edit α → Bool
  | keep _ => false
  | remove _ | add _ => true

end Edit

/-- Lines of a row: the place of the first one, counted from zero, and their number. -/
structure Range where
  start : Nat
  count : Nat
  deriving DecidableEq

def Range.of (range : Range) (lines : List α) : List α :=
  slice range.start (range.start + range.count) lines

/-- A hunk as it is read: the ranges that its head states, and its lines. -/
structure Portion (α : Type) where
  left : Range
  right : Range
  edits : List (Edit α)
  deriving DecidableEq

namespace Portion

def before (portion : Portion α) : List α :=
  portion.edits.flatMap Edit.before

def after (portion : Portion α) : List α :=
  portion.edits.flatMap Edit.after

end Portion

/-- Apply portions to the lines of a row from `place` on.  The lines up to a portion
stay; those that it keeps and removes must follow, and those that it keeps and adds
take their place. -/
def applyFrom [DecidableEq α] (place : Nat) : List (Portion α) → List α → Option (List α)
  | [], lines => some lines
  | portion :: rest, lines =>
    let gap := portion.left.start - place
    if place ≤ portion.left.start ∧ gap ≤ lines.length then
      match Text.stripFront? portion.before (lines.drop gap) with
      | none => none
      | some others =>
        (applyFrom (portion.left.start + portion.left.count) rest others).map fun applied =>
          lines.take gap ++ (portion.after ++ applied)
    else none

/-! ## Reading -/

def readNumber? (text : Text) : Option Nat :=
  if !text.isEmpty && text.all Text.isDigit then some (Text.digitsValue text) else none

/-- A range by the number of its first line, counted from one; an empty range is after
the line of that number. -/
def Range.ofNumber? (number count : Nat) : Option Range :=
  if count = 0 then some { start := number, count := 0 }
  else if number = 0 then none
  else some { start := number - 1, count := count }

/-- Read a range.  It has one line unless it says how many. -/
def readRange? (text : Text) : Option Range :=
  match Text.splitOn ',' text with
  | [number] => (readNumber? number).bind fun number => Range.ofNumber? number 1
  | [number, count] =>
    (readNumber? number).bind fun number =>
      (readNumber? count).bind fun count => Range.ofNumber? number count
  | _ => none

/-- Read the head of a hunk. -/
def readHead? (line : Text) : Option (Range × Range) :=
  match Text.splitOn ' ' line with
  | [['@', '@'], '-' :: left, '+' :: right, ['@', '@']] =>
    (readRange? left).bind fun left => (readRange? right).map fun right => (left, right)
  | _ => none

/-- A capture as text, if it is one. -/
def text? : Capture → Option Text
  | [] => some []
  | .char c :: rest => (text? rest).map (c :: ·)
  | .byte _ :: _ => none

/-- Read a line of a hunk. -/
def readEdit? : Capture → Option (Edit Capture)
  | .char ' ' :: line => some (.keep line)
  | .char '-' :: line => some (.remove line)
  | .char '+' :: line => some (.add line)
  | _ => none

/-- Read lines as the rest of a portion, of whose lines on either side `old` and `new`
are to come, and as the portions after it.  The first line that is no head where one
could stand ends the reading; it is answered with the lines after it. -/
def readOn : (old new : Nat) → List Capture →
    Option (List (Edit Capture) × List (Portion Capture) × List Capture)
  | old, new, [] => if old = 0 ∧ new = 0 then some ([], [], []) else none
  | old, new, line :: rest =>
    if old = 0 ∧ new = 0 then
      match (text? line).bind readHead? with
      | none => some ([], [], line :: rest)
      | some (left, right) =>
        (readOn left.count right.count rest).map fun read =>
          ([], { left := left, right := right, edits := read.1 } :: read.2.1, read.2.2)
    else
      match readEdit? line with
      | none => none
      | some edit =>
        if edit.before.length ≤ old ∧ edit.after.length ≤ new then
          (readOn (old - edit.before.length) (new - edit.after.length) rest).map fun read =>
            (edit :: read.1, read.2)
        else none

/-! ## Heads -/

theorem readNumber?_ofNat (n : Nat) : readNumber? (Text.ofNat n) = some n := by
  have hdigits : (!(Text.ofNat n).isEmpty && (Text.ofNat n).all Text.isDigit) = true := by
    simp only [Bool.and_eq_true, Bool.not_eq_true', List.isEmpty_eq_false_iff, List.all_eq_true]
    exact ⟨Text.ofNat_ne_nil n, fun _ => Text.isDigit_of_mem_ofNat⟩
  rw [readNumber?, if_pos hdigits, Text.digitsValue_ofNat]

/-- A character that is no digit is not in a number. -/
theorem not_mem_ofNat {c : Char} (h : Text.isDigit c = false) (n : Nat) : c ∉ Text.ofNat n :=
  fun hmem => Bool.false_ne_true (h.symm.trans (Text.isDigit_of_mem_ofNat hmem))

/-- A range is of digits and commas. -/
theorem not_mem_rangeText {c : Char} (h : Text.isDigit c = false) (hcomma : c ≠ ',')
    (start length : Nat) : c ∉ rangeText start length := by
  unfold rangeText
  split
  · exact not_mem_ofNat h _
  · simp [not_mem_ofNat h, hcomma]

theorem readRange?_rangeText (start length : Nat) :
    readRange? (rangeText start length) = some { start := start, count := length } := by
  have hcomma (n : Nat) : ',' ∉ Text.ofNat n := not_mem_ofNat (by decide) n
  unfold rangeText
  split
  · next hone =>
    rw [readRange?, Text.splitOn_of_not_mem (hcomma _), hone]
    simp [readNumber?_ofNat, Range.ofNumber?]
  · rw [readRange?, Text.splitOn_append (hcomma _), Text.splitOn_of_not_mem (hcomma _)]
    by_cases hzero : length = 0 <;> simp [readNumber?_ofNat, Range.ofNumber?, hzero]

/-- The lines of a stretch, one by one. -/
def Stretch.edits : Stretch α → List (Edit α)
  | .same lines => lines.map .keep
  | .change removed added => removed.map .remove ++ added.map .add

/-- A hunk as it is read. -/
def Hunk.portion (hunk : Hunk α) : Portion α where
  left := { start := hunk.leftStart, count := (before hunk.body).length }
  right := { start := hunk.rightStart, count := (after hunk.body).length }
  edits := hunk.body.flatMap Stretch.edits

/-- The head of a hunk, at its blanks. -/
theorem Hunk.headText_eq (hunk : Hunk α) :
    hunk.headText = ['@', '@'] ++ ' ' ::
      (('-' :: rangeText hunk.leftStart (before hunk.body).length) ++ ' ' ::
        (('+' :: rangeText hunk.rightStart (after hunk.body).length) ++ ' ' :: ['@', '@'])) := by
  -- Lean takes seconds to make an equation of this definition, so it is opened by `delta`.
  delta headText
  simp

theorem readHead?_headText (hunk : Hunk α) :
    readHead? hunk.headText = some (hunk.portion.left, hunk.portion.right) := by
  have hmarked {c : Char} (hc : c ≠ ' ') (start length : Nat) :
      ' ' ∉ c :: rangeText start length := by
    have hrange := not_mem_rangeText (c := ' ') (by decide) (by decide) start length
    simp [hrange, hc.symm]
  rw [readHead?, hunk.headText_eq, Text.splitOn_append (by decide),
    Text.splitOn_append (hmarked (by decide) _ _), Text.splitOn_append (hmarked (by decide) _ _),
    Text.splitOn_of_not_mem (by decide)]
  simp only [readRange?_rangeText]
  rfl

/-! ## Lines -/

theorem text?_ofText (text : Text) : text? (Capture.ofText text) = some text := by
  induction text with
  | nil => rfl
  | cons c rest ih => exact congrArg (Option.map (c :: ·)) ih

/-- An edit as a line with its mark. -/
def Edit.marked : Edit Capture → Capture
  | .keep line => .char ' ' :: line
  | .remove line => .char '-' :: line
  | .add line => .char '+' :: line

theorem readEdit?_marked (edit : Edit Capture) : readEdit? edit.marked = some edit := by
  cases edit <;> rfl

theorem Stretch.marked_eq (stretch : Stretch Capture) :
    stretch.marked = stretch.edits.map Edit.marked := by
  cases stretch <;> simp [Stretch.marked, Stretch.edits, Function.comp_def, Edit.marked]

theorem Stretch.before_edits (stretch : Stretch α) :
    stretch.edits.flatMap Edit.before = stretch.before := by
  cases stretch <;> simp [Stretch.edits, Stretch.before, Edit.before, List.flatMap_map]

theorem Stretch.after_edits (stretch : Stretch α) :
    stretch.edits.flatMap Edit.after = stretch.after := by
  cases stretch <;> simp [Stretch.edits, Stretch.after, Edit.after, List.flatMap_map]

@[simp] theorem Hunk.before_portion (hunk : Hunk α) : hunk.portion.before = before hunk.body := by
  simp only [Portion.before, portion, List.flatMap_assoc, Stretch.before_edits, Diff.before]

@[simp] theorem Hunk.after_portion (hunk : Hunk α) : hunk.portion.after = after hunk.body := by
  simp only [Portion.after, portion, List.flatMap_assoc, Stretch.after_edits, Diff.after]

/-- A hunk is rendered as its head and its lines with their marks. -/
theorem Hunk.render_eq (hunk : Hunk Capture) :
    hunk.render = Capture.ofText hunk.headText :: hunk.portion.edits.map Edit.marked := by
  simp only [render, portion, List.map_flatMap, ← Stretch.marked_eq]

/-! ## Reading what is rendered -/

section

variable {lines : List Capture} {portions : List (Portion Capture)} {others : List Capture}

/-- Lines of a portion, as far as the counts of its head go. -/
theorem readOn_edits (h : readOn 0 0 lines = some ([], portions, others))
    (edits : List (Edit Capture)) :
    readOn (edits.flatMap Edit.before).length (edits.flatMap Edit.after).length
      (edits.map Edit.marked ++ lines) = some (edits, portions, others) := by
  induction edits with
  | nil => exact h
  | cons edit rest ih =>
      have hsome : ¬ ((edit :: rest).flatMap Edit.before |>.length) = 0 ∨
          ¬ ((edit :: rest).flatMap Edit.after |>.length) = 0 := by
        cases edit <;> simp [Edit.before, Edit.after]
      rw [List.map_cons, List.cons_append, readOn, if_neg (not_and_or.mpr hsome),
        readEdit?_marked, List.flatMap_cons, List.flatMap_cons, List.length_append,
        List.length_append]
      dsimp only
      rw [if_pos ⟨Nat.le_add_right _ _, Nat.le_add_right _ _⟩, Nat.add_sub_cancel_left,
        Nat.add_sub_cancel_left, ih]
      rfl

/-- A hunk, and what is read behind it. -/
theorem readOn_hunk (h : readOn 0 0 lines = some ([], portions, others)) (hunk : Hunk Capture) :
    readOn 0 0 (hunk.render ++ lines) = some ([], hunk.portion :: portions, others) := by
  have hread : readOn hunk.portion.left.count hunk.portion.right.count
      (hunk.portion.edits.map Edit.marked ++ lines) =
      some (hunk.portion.edits, portions, others) := by
    rw [← readOn_edits h hunk.portion.edits]
    exact congrArg₂ (fun old new => readOn old new _)
      (congrArg List.length hunk.before_portion.symm)
      (congrArg List.length hunk.after_portion.symm)
  have hhead : (text? (Capture.ofText hunk.headText)).bind readHead? =
      some (hunk.portion.left, hunk.portion.right) := by
    rw [text?_ofText, Option.bind_some, readHead?_headText]
  rw [Hunk.render_eq, List.cons_append, readOn, if_pos ⟨rfl, rfl⟩, hhead]
  dsimp only
  rw [hread]
  rfl

/-- **Reading**: hunks are read as they are rendered, up to a line that is no head. -/
theorem readOn_render (h : readOn 0 0 lines = some ([], [], lines)) (hunks : List (Hunk Capture)) :
    readOn 0 0 (hunks.flatMap Hunk.render ++ lines) = some ([], hunks.map Hunk.portion, lines) := by
  induction hunks with
  | nil => exact h
  | cons hunk rest ih =>
      rw [List.flatMap_cons, List.append_assoc, List.map_cons]
      exact readOn_hunk ih hunk

end

/-! ## Applying -/

/-- **Applying**: hunks that lead from a row to another one take it there. -/
theorem Leads.applyFrom_eq [DecidableEq α] {left right : Nat} {hunks : List (Hunk α)}
    {xs ys : List α} (h : Leads left right hunks xs ys) :
    applyFrom left (hunks.map Hunk.portion) xs = some ys := by
  induction h with
  | done => rfl
  | @hunk left right gap hunk hunks xs ys hleft hright rest ih =>
      have hgap : hunk.portion.left.start - left = gap.length := by
        rw [Hunk.portion, hleft, Nat.add_sub_cancel_left]
      have hplace : left ≤ hunk.portion.left.start := Nat.le.intro hleft.symm
      have hlines : gap.length ≤ (gap ++ (before hunk.body ++ xs)).length := by simp
      have hstands : Text.stripFront? hunk.portion.before (before hunk.body ++ xs) = some xs := by
        simp [Text.stripFront?]
      rw [List.map_cons, applyFrom, hgap, if_pos ⟨hplace, hlines⟩, List.drop_left, hstands,
        List.take_left]
      dsimp only
      rw [hunk.after_portion]
      exact congrArg (Option.map fun applied => gap ++ (after hunk.body ++ applied)) ih

/-- A portion that does not leave its lines as they are has a change. -/
theorem Portion.exists_change {portion : Portion α} (h : portion.before ≠ portion.after) :
    ∃ edit ∈ portion.edits, edit.isChange = true := by
  by_contra hnone
  refine h (congrArg List.flatten (List.map_congr_left fun edit hedit => ?_))
  cases edit with
  | keep line => rfl
  | remove line => exact absurd ⟨_, hedit, rfl⟩ hnone
  | add line => exact absurd ⟨_, hedit, rfl⟩ hnone

end Diff

end SchemeCheck

import SchemeCheck.Diff.Unified
import SchemeCheck.Proofs.Diff.Matching

/-!
# SchemeCheck.Proofs.Diff.Hunks

What hunks say.  The script of two rows reads as the left row on one side and as the
right row on the other (`before_script`, `after_script`), because the runs that it is
made of are a matching.  Cutting it into hunks leaves out lines that both sides have
and nothing else, and the places of the hunks are those of their lines
(`leads_hunks`); so a hunk is found in both rows where it says that it starts
(`Leads.slice_eq`).
-/

namespace SchemeCheck.Diff

variable {α : Type}

/-! ## Slices -/

/-- A slice, and what stands after it. -/
theorem slice_append_drop {low high : Nat} (h : low ≤ high) (lines : List α) :
    slice low high lines ++ lines.drop high = lines.drop low := by
  have hhigh : lines.drop high = (lines.drop low).drop (high - low) := by
    rw [List.drop_drop, Nat.add_sub_cancel' h]
  rw [slice, hhigh, List.take_append_drop]

/-- Slices of equal lines are equal. -/
theorem slice_eq_slice {xs ys : List α} {left right size : Nat}
    (h : ∀ k < size, xs[left + k]? = ys[right + k]?) :
    slice left (left + size) xs = slice right (right + size) ys := by
  refine List.ext_getElem? fun k => ?_
  simp only [slice, Nat.add_sub_cancel_left, List.getElem?_take, List.getElem?_drop]
  split
  · next hk => exact h k hk
  · rfl

/-- The slice between what stands before it and what stands after it. -/
theorem slice_between (front middle rest : List α) :
    slice front.length (front.length + middle.length) (front ++ (middle ++ rest)) = middle := by
  rw [slice, Nat.add_sub_cancel_left, List.drop_left, List.take_left]

/-! ## Scripts -/

@[simp] theorem before_nil : before ([] : List (Stretch α)) = [] := rfl

@[simp] theorem after_nil : after ([] : List (Stretch α)) = [] := rfl

@[simp] theorem before_cons (stretch : Stretch α) (script : List (Stretch α)) :
    before (stretch :: script) = stretch.before ++ before script :=
  List.flatMap_cons

@[simp] theorem after_cons (stretch : Stretch α) (script : List (Stretch α)) :
    after (stretch :: script) = stretch.after ++ after script :=
  List.flatMap_cons

@[simp] theorem before_append (script more : List (Stretch α)) :
    before (script ++ more) = before script ++ before more :=
  List.flatMap_append

@[simp] theorem after_append (script more : List (Stretch α)) :
    after (script ++ more) = after script ++ after more :=
  List.flatMap_append

theorem before_consSame (lines : List α) (script : List (Stretch α)) :
    before (consSame lines script) = lines ++ before script := by
  unfold consSame
  split <;> simp [Stretch.before]

theorem after_consSame (lines : List α) (script : List (Stretch α)) :
    after (consSame lines script) = lines ++ after script := by
  unfold consSame
  split <;> simp [Stretch.after]

theorem before_consChange (removed added : List α) (script : List (Stretch α)) :
    before (consChange removed added script) = removed ++ before script := by
  unfold consChange
  split
  · next hnone => simp_all
  · rfl

theorem after_consChange (removed added : List α) (script : List (Stretch α)) :
    after (consChange removed added script) = added ++ after script := by
  unfold consChange
  split
  · next hnone => simp_all
  · rfl

/-- The left row, as far as the script goes. -/
theorem before_scriptFrom (xs ys : List α) {left : Nat} (right : Nat) {ms : List Match}
    (hstart : ∀ m ∈ ms, left ≤ m.left) (horder : ms.Pairwise Match.Precedes) :
    before (scriptFrom xs ys left right ms) = xs.drop left := by
  induction ms generalizing left right with
  | nil => rw [scriptFrom, before_consChange, before_nil, List.append_nil]
  | cons m rest ih =>
      obtain ⟨hnext, hrest⟩ := List.pairwise_cons.mp horder
      rw [scriptFrom, before_consChange, before_consSame,
        ih _ (fun next hmem => (hnext next hmem).1) hrest,
        slice_append_drop (Nat.le_add_right _ _),
        slice_append_drop (hstart m List.mem_cons_self)]

/-- The right row, as far as the script goes. -/
theorem after_scriptFrom {xs ys : List α} (left : Nat) {right : Nat} {ms : List Match}
    (hstart : ∀ m ∈ ms, right ≤ m.right) (horder : ms.Pairwise Match.Precedes)
    (hequal : ∀ m ∈ ms, ∀ k < m.size, xs[m.left + k]? = ys[m.right + k]?) :
    after (scriptFrom xs ys left right ms) = ys.drop right := by
  induction ms generalizing left right with
  | nil => rw [scriptFrom, after_consChange, after_nil, List.append_nil]
  | cons m rest ih =>
      obtain ⟨hnext, hrest⟩ := List.pairwise_cons.mp horder
      obtain ⟨hlines, hequal⟩ := List.forall_mem_cons.mp hequal
      rw [scriptFrom, after_consChange, after_consSame,
        ih _ (fun next hmem => (hnext next hmem).2) hrest hequal, slice_eq_slice hlines,
        slice_append_drop (Nat.le_add_right _ _),
        slice_append_drop (hstart m List.mem_cons_self)]

section

variable [DecidableEq α] (xs ys : List α)

/-- **Script, left**: every line of the left row is kept or removed. -/
theorem before_script : before (script xs ys) = xs :=
  before_scriptFrom xs ys 0 (fun _ _ => Nat.zero_le _) (isMatching_matching xs ys).inOrder

/-- **Script, right**: every line of the right row was kept or added. -/
theorem after_script : after (script xs ys) = ys := by
  have hmatching := isMatching_matching xs ys
  refine after_scriptFrom 0 (fun _ _ => Nat.zero_le _) hmatching.inOrder fun m hm k hk => ?_
  simpa only [List.getElem?_toArray] using (hmatching.isRun m hm).equal k hk

end

/-! ## Hunks -/

namespace Hunk

def leftEnd (hunk : Hunk α) : Nat :=
  hunk.leftStart + (before hunk.body).length

def rightEnd (hunk : Hunk α) : Nat :=
  hunk.rightStart + (after hunk.body).length

@[simp] theorem leftStart_push (hunk : Hunk α) (stretch : Stretch α) :
    (hunk.push stretch).leftStart = hunk.leftStart := rfl

@[simp] theorem rightStart_push (hunk : Hunk α) (stretch : Stretch α) :
    (hunk.push stretch).rightStart = hunk.rightStart := rfl

@[simp] theorem before_push (hunk : Hunk α) (stretch : Stretch α) :
    before (hunk.push stretch).body = before hunk.body ++ stretch.before := by
  simp [push]

@[simp] theorem after_push (hunk : Hunk α) (stretch : Stretch α) :
    after (hunk.push stretch).body = after hunk.body ++ stretch.after := by
  simp [push]

theorem leftEnd_push (hunk : Hunk α) (stretch : Stretch α) :
    (hunk.push stretch).leftEnd = hunk.leftEnd + stretch.before.length := by
  simp [leftEnd, push, Nat.add_assoc]

theorem rightEnd_push (hunk : Hunk α) (stretch : Stretch α) :
    (hunk.push stretch).rightEnd = hunk.rightEnd + stretch.after.length := by
  simp [rightEnd, push, Nat.add_assoc]

/-- A hunk that opens with the last ones of common lines. -/
def opening (leftStart rightStart : Nat) (lines : List α) : Hunk α where
  leftStart := leftStart
  rightStart := rightStart
  body := [.same (lastLines lines)]

@[simp] theorem before_opening (leftStart rightStart : Nat) (lines : List α) :
    before (opening leftStart rightStart lines).body = lastLines lines :=
  List.append_nil _

@[simp] theorem after_opening (leftStart rightStart : Nat) (lines : List α) :
    after (opening leftStart rightStart lines).body = lastLines lines :=
  List.append_nil _

theorem leftEnd_opening (leftStart rightStart : Nat) (lines : List α) :
    (opening leftStart rightStart lines).leftEnd = leftStart + min contextSize lines.length := by
  rw [leftEnd, before_opening, lastLines, List.length_drop]
  exact congrArg (leftStart + ·) (by omega)

theorem rightEnd_opening (leftStart rightStart : Nat) (lines : List α) :
    (opening leftStart rightStart lines).rightEnd = rightStart + min contextSize lines.length := by
  rw [rightEnd, after_opening, lastLines, List.length_drop]
  exact congrArg (rightStart + ·) (by omega)

/-- A hunk that shows no difference has the same lines on both sides. -/
theorem before_eq_after {hunk : Hunk α} (h : ¬ hunk.differs = true) :
    before hunk.body = after hunk.body := by
  obtain ⟨leftStart, rightStart, body⟩ := hunk
  induction body with
  | nil => rfl
  | cons stretch rest ih =>
      cases stretch with
      | change removed added => simp [differs] at h
      | same lines =>
          have hrest := ih (by simpa [differs] using h)
          exact congrArg (lines ++ ·) hrest

end Hunk

/-- Hunks lead from a row of lines, which starts at place `left`, to another one, which
starts at place `right`: where there is no hunk both rows have the same lines, and
every hunk starts at the places that have been reached. -/
inductive Leads : (left right : Nat) → List (Hunk α) → (xs ys : List α) → Prop where
  | done (left right : Nat) (xs : List α) : Leads left right [] xs xs
  | hunk {left right : Nat} (gap : List α) {hunk : Hunk α} {hunks : List (Hunk α)}
      {xs ys : List α} (hleft : hunk.leftStart = left + gap.length)
      (hright : hunk.rightStart = right + gap.length)
      (rest : Leads hunk.leftEnd hunk.rightEnd hunks xs ys) :
      Leads left right (hunk :: hunks) (gap ++ (before hunk.body ++ xs))
        (gap ++ (after hunk.body ++ ys))

namespace Leads

variable {left right : Nat} {hunk : Hunk α} {hunks : List (Hunk α)} {xs ys : List α}

/-- Lines that both rows have may stand before the first hunk. -/
theorem skip (lines : List α) (h : Leads (left + lines.length) (right + lines.length) hunks xs ys) :
    Leads left right hunks (lines ++ xs) (lines ++ ys) := by
  cases h with
  | done => exact .done left right _
  | hunk gap hleft hright rest =>
      rw [← List.append_assoc, ← List.append_assoc lines gap]
      refine .hunk (lines ++ gap) ?_ ?_ rest
      · rw [hleft, List.length_append, Nat.add_assoc]
      · rw [hright, List.length_append, Nat.add_assoc]

/-- The first hunk may start where the rows do. -/
theorem start (rest : Leads hunk.leftEnd hunk.rightEnd hunks xs ys) :
    Leads hunk.leftStart hunk.rightStart (hunk :: hunks) (before hunk.body ++ xs)
      (after hunk.body ++ ys) :=
  .hunk [] rfl rfl rest

/-- The last hunk is left out if it shows no difference. -/
theorem last (hunk : Hunk α) (xs : List α) :
    Leads hunk.leftStart hunk.rightStart (if hunk.differs then [hunk] else [])
      (before hunk.body ++ xs) (after hunk.body ++ xs) := by
  split
  · exact .start (.done _ _ xs)
  · next hsame =>
    rw [Hunk.before_eq_after hsame]
    exact .done _ _ _

/-- A hunk holds the lines of both rows from where it starts on. -/
theorem slice_eq (h : Leads left right hunks xs ys) (front front' : List α)
    (hfront : front.length = left) (hfront' : front'.length = right) :
    ∀ hunk ∈ hunks,
      slice hunk.leftStart hunk.leftEnd (front ++ xs) = before hunk.body ∧
      slice hunk.rightStart hunk.rightEnd (front' ++ ys) = after hunk.body := by
  induction h generalizing front front' with
  | done => exact fun _ h => nomatch h
  | @hunk left right gap hunk hunks xs ys hleft hright rest ih =>
      have hstart : hunk.leftStart = (front ++ gap).length := by
        rw [hleft, List.length_append, hfront]
      have hstart' : hunk.rightStart = (front' ++ gap).length := by
        rw [hright, List.length_append, hfront']
      refine List.forall_mem_cons.mpr ⟨?_, fun next hnext => ?_⟩
      · rw [Hunk.leftEnd, Hunk.rightEnd, hstart, hstart', ← List.append_assoc,
          ← List.append_assoc front' gap]
        exact ⟨slice_between _ _ _, slice_between _ _ _⟩
      · have hnext := ih (front ++ gap ++ before hunk.body) (front' ++ gap ++ after hunk.body)
          (by rw [List.length_append, ← hstart, Hunk.leftEnd])
          (by rw [List.length_append, ← hstart', Hunk.rightEnd]) next hnext
        simpa only [List.append_assoc] using hnext

/-- Rows that differ have a hunk that differs. -/
theorem exists_ne (h : Leads left right hunks xs ys) (hne : xs ≠ ys) :
    ∃ hunk ∈ hunks, before hunk.body ≠ after hunk.body := by
  induction h with
  | done => exact absurd rfl hne
  | @hunk left right gap hunk hunks xs ys hleft hright rest ih =>
      by_cases hbody : before hunk.body = after hunk.body
      · obtain ⟨next, hmem, hnext⟩ := ih fun he => hne (by rw [hbody, he])
        exact ⟨next, List.mem_cons_of_mem hunk hmem, hnext⟩
      · exact ⟨hunk, List.mem_cons_self, hbody⟩

end Leads

/-- Of a row that is long enough only the lines in its middle are not shown. -/
theorem take_append_slice_append_lastLines {lines : List α}
    (h : 2 * contextSize < lines.length) :
    lines.take contextSize ++
      (slice contextSize (lines.length - contextSize) lines ++ lastLines lines) = lines := by
  rw [lastLines, slice_append_drop (by omega), List.take_append_drop]

/-- **Step**: common lines that are too many end a hunk, and start the next one. -/
theorem Leads.cut {lines : List α} (hlong : 2 * contextSize < lines.length) (hunk : Hunk α)
    {hunks : List (Hunk α)} {xs ys : List α}
    (rest : Leads (hunk.leftEnd + lines.length - contextSize)
      (hunk.rightEnd + lines.length - contextSize) hunks (lastLines lines ++ xs)
      (lastLines lines ++ ys)) :
    Leads hunk.leftStart hunk.rightStart (hunk.push (.same (lines.take contextSize)) :: hunks)
      (before hunk.body ++ (lines ++ xs)) (after hunk.body ++ (lines ++ ys)) := by
  let shown := hunk.push (.same (lines.take contextSize))
  let hidden := slice contextSize (lines.length - contextSize) lines
  have hleft : hunk.leftEnd + lines.length - contextSize = shown.leftEnd + hidden.length := by
    simp only [shown, hidden, Hunk.leftEnd_push, Stretch.before, slice, List.length_take,
      List.length_drop]
    omega
  have hright : hunk.rightEnd + lines.length - contextSize = shown.rightEnd + hidden.length := by
    simp only [shown, hidden, Hunk.rightEnd_push, Stretch.after, slice, List.length_take,
      List.length_drop]
    omega
  rw [hleft, hright] at rest
  have hcut := (rest.skip hidden).start
  have hlines (zs : List α) :
      lines.take contextSize ++ (hidden ++ (lastLines lines ++ zs)) = lines ++ zs := by
    rw [← List.append_assoc hidden, ← List.append_assoc, take_append_slice_append_lastLines hlong]
  simpa only [shown, Hunk.leftStart_push, Hunk.rightStart_push, Hunk.before_push,
    Hunk.after_push, Stretch.before, Stretch.after, List.append_assoc, hlines] using hcut

/-- **Run**: the hunk at hand and those after it, for the rest of a script. -/
theorem leads_hunksFrom (hunk : Hunk α) (script : List (Stretch α)) :
    Leads hunk.leftStart hunk.rightStart (hunksFrom hunk.leftEnd hunk.rightEnd hunk script)
      (before hunk.body ++ before script) (after hunk.body ++ after script) := by
  induction script generalizing hunk with
  | nil => exact .last hunk []
  | cons stretch rest ih =>
      have hpushed := ih (hunk.push stretch)
      rw [Hunk.leftEnd_push, Hunk.rightEnd_push, Hunk.before_push, Hunk.after_push,
        List.append_assoc, List.append_assoc] at hpushed
      cases stretch with
      | change removed added => exact hpushed
      | same lines =>
          cases rest with
          | nil =>
              have hlast := Leads.last (hunk.push (.same (lines.take contextSize)))
                (lines.drop contextSize)
              simpa [hunksFrom, Stretch.before, Stretch.after] using hlast
          | cons next more =>
              rw [before_cons, after_cons, hunksFrom]
              · split
                · next hlong =>
                  have hnext := ih (.opening (hunk.leftEnd + lines.length - contextSize)
                    (hunk.rightEnd + lines.length - contextSize) lines)
                  rw [Hunk.leftEnd_opening, Hunk.rightEnd_opening, Hunk.before_opening,
                    Hunk.after_opening, Nat.min_eq_left (by omega), Nat.sub_add_cancel (by omega),
                    Nat.sub_add_cancel (by omega)] at hnext
                  exact .cut hlong hunk hnext
                · exact hpushed
              · exact fun h => nomatch h

/-- **Hunks**: they lead from one side of a script to the other. -/
theorem leads_hunks (script : List (Stretch α)) :
    Leads 0 0 (hunks script) (before script) (after script) := by
  have hnone (script : List (Stretch α)) :=
    leads_hunksFrom { leftStart := 0, rightStart := 0, body := [] } script
  cases script with
  | nil => exact hnone []
  | cons stretch rest =>
      cases stretch with
      | change removed added => exact hnone (.change removed added :: rest)
      | same lines =>
          have hopened := leads_hunksFrom (.opening (lines.length - contextSize)
            (lines.length - contextSize) lines) rest
          have hend : lines.length - contextSize + min contextSize lines.length = lines.length := by
            omega
          rw [Hunk.leftEnd_opening, Hunk.rightEnd_opening, Hunk.before_opening, Hunk.after_opening,
            hend] at hopened
          have hstart : 0 + (lines.take (lines.length - contextSize)).length =
              lines.length - contextSize := by
            simp
          have hskipped : Leads 0 0 (hunks (.same lines :: rest))
              (lines.take (lines.length - contextSize) ++ (lastLines lines ++ before rest))
              (lines.take (lines.length - contextSize) ++ (lastLines lines ++ after rest)) :=
            .skip _ (by rw [hstart]; exact hopened)
          rw [← List.append_assoc, ← List.append_assoc, lastLines,
            List.take_append_drop] at hskipped
          exact hskipped

end SchemeCheck.Diff

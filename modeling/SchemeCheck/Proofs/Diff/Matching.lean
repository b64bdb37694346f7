import SchemeCheck.Diff.Matching

/-!
# SchemeCheck.Proofs.Diff.Matching

What a matching is.  However runs are found and however far they grow, each of them
stands in its window and its lines are equal (`IsRun`): a run that is anchored is one
(`isRun_longestAnchored`), and it stays one while it grows.  The runs that are found
before and after a run lie in the windows there, so all of them come in order on both
sides: `matching_isMatching`.
-/

namespace SchemeCheck.Diff

variable {α : Type}

/-! ## Runs -/

/-- A run in a window: on both sides it lies between the bounds, and its lines are
equal. -/
structure IsRun (a b : Array α) (w : Window) (m : Match) : Prop where
  leftLow : w.leftLow ≤ m.left
  leftHigh : m.left + m.size ≤ w.leftHigh
  rightLow : w.rightLow ≤ m.right
  rightHigh : m.right + m.size ≤ w.rightHigh
  equal : ∀ k < m.size, a[m.left + k]? = b[m.right + k]?

variable {a b : Array α} {w : Window} {m : Match}

/-- One more equal line after a run. -/
theorem IsRun.forward (h : IsRun a b w m) (hleft : m.left + m.size < w.leftHigh)
    (hright : m.right + m.size < w.rightHigh)
    (hline : a[m.left + m.size]? = b[m.right + m.size]?) :
    IsRun a b w { m with size := m.size + 1 } where
  leftLow := h.leftLow
  leftHigh := hleft
  rightLow := h.rightLow
  rightHigh := hright
  equal k hk := by
    by_cases hlast : k = m.size
    · rw [hlast]
      exact hline
    · exact h.equal k (by dsimp only at hk; omega)

/-- One more equal line before a run. -/
theorem IsRun.back (h : IsRun a b w m) (hleft : w.leftLow < m.left) (hright : w.rightLow < m.right)
    (hline : a[m.left - 1]? = b[m.right - 1]?) :
    IsRun a b w { left := m.left - 1, right := m.right - 1, size := m.size + 1 } where
  leftLow := by dsimp only; omega
  leftHigh := by have := h.leftHigh; dsimp only; omega
  rightLow := by dsimp only; omega
  rightHigh := by have := h.rightHigh; dsimp only; omega
  equal k hk := by
    cases k with
    | zero => exact hline
    | succ k =>
        have hleft : m.left - 1 + (k + 1) = m.left + k := by omega
        have hright : m.right - 1 + (k + 1) = m.right + k := by omega
        dsimp only
        rw [hleft, hright]
        exact h.equal k (Nat.lt_of_succ_lt_succ hk)

/-- A run in a part of a window. -/
theorem IsRun.mono {part : Window} (h : IsRun a b part m) (hleftLow : w.leftLow ≤ part.leftLow)
    (hleftHigh : part.leftHigh ≤ w.leftHigh) (hrightLow : w.rightLow ≤ part.rightLow)
    (hrightHigh : part.rightHigh ≤ w.rightHigh) : IsRun a b w m where
  leftLow := Nat.le_trans hleftLow h.leftLow
  leftHigh := Nat.le_trans h.leftHigh hleftHigh
  rightLow := Nat.le_trans hrightLow h.rightLow
  rightHigh := Nat.le_trans h.rightHigh hrightHigh
  equal := h.equal

/-! ## Matchings -/

/-- A run that ends on both sides before another one starts. -/
def Match.Precedes (m next : Match) : Prop :=
  m.left + m.size ≤ next.left ∧ m.right + m.size ≤ next.right

/-- A matching of the lines in a window: runs, in order on both sides. -/
structure IsMatching (a b : Array α) (w : Window) (ms : List Match) : Prop where
  isRun : ∀ m ∈ ms, IsRun a b w m
  inOrder : ms.Pairwise Match.Precedes

/-- No runs are a matching. -/
theorem IsMatching.nil : IsMatching a b w [] where
  isRun _ h := nomatch h
  inOrder := List.Pairwise.nil

/-- A matching before a run, the run, and a matching after it. -/
theorem IsMatching.around {before after : List Match} (h : IsRun a b w m)
    (hbefore : IsMatching a b { w with leftHigh := m.left, rightHigh := m.right } before)
    (hafter : IsMatching a b
      { w with leftLow := m.left + m.size, rightLow := m.right + m.size } after) :
    IsMatching a b w (before ++ m :: after) where
  isRun run hrun := by
    have hleft := Nat.le_trans (Nat.le_add_right m.left m.size) h.leftHigh
    have hright := Nat.le_trans (Nat.le_add_right m.right m.size) h.rightHigh
    rcases List.mem_append.mp hrun with hrun | hrun
    · exact (hbefore.isRun run hrun).mono (Nat.le_refl _) hleft (Nat.le_refl _) hright
    · rcases List.mem_cons.mp hrun with rfl | hrun
      · exact h
      · exact (hafter.isRun run hrun).mono (Nat.le_add_right_of_le h.leftLow) (Nat.le_refl _)
          (Nat.le_add_right_of_le h.rightLow) (Nat.le_refl _)
  inOrder := by
    refine List.pairwise_append.mpr
      ⟨hbefore.inOrder, List.pairwise_cons.mpr ⟨?_, hafter.inOrder⟩, ?_⟩
    · intro next hnext
      have hstart := hafter.isRun next hnext
      exact ⟨hstart.leftLow, hstart.rightLow⟩
    · intro run hrun next hnext
      have hend := hbefore.isRun run hrun
      rcases List.mem_cons.mp hnext with rfl | hnext
      · exact ⟨hend.leftHigh, hend.rightHigh⟩
      · have hstart := hafter.isRun next hnext
        exact ⟨Nat.le_trans (Nat.le_add_right_of_le hend.leftHigh) hstart.leftLow,
          Nat.le_trans (Nat.le_add_right_of_le hend.rightHigh) hstart.rightLow⟩

/-! ## Anchored runs -/

/-- The run that ends before line `stop` of the left row: `run` is the place of its
end in the right row, and its length. -/
def endingAt (stop : Nat) (run : Nat × Nat) : Match where
  left := stop - run.2
  right := run.1 + 1 - run.2
  size := run.2

/-- A run by its end. -/
structure Ends (a b : Array α) (w : Window) (stop : Nat) (run : Nat × Nat) : Prop where
  isRun : IsRun a b w (endingAt stop run)
  left : run.2 ≤ stop
  right : run.2 ≤ run.1 + 1

/-- Where runs end that are extended, and how long they are. -/
theorem mem_extendRuns {js : List Nat} {earlier : List (Nat × Nat)} {run : Nat × Nat}
    (h : run ∈ extendRuns js earlier) :
    run.1 ∈ js ∧ (run.2 = 1 ∨ ∃ before ∈ earlier, before.1 + 1 = run.1 ∧ run.2 = before.2 + 1) := by
  induction js generalizing earlier with
  | nil => cases h
  | cons j js ih =>
      rw [extendRuns] at h
      have hlater : ∀ before ∈ earlier.dropWhile (fun run => decide (run.1 + 1 < j)),
          before ∈ earlier := fun before hmem => (List.dropWhile_sublist _).subset hmem
      cases List.mem_cons.mp h with
      | inr hrest =>
          obtain ⟨hmem, hsize⟩ := ih hrest
          refine ⟨List.mem_cons_of_mem j hmem, hsize.imp_right ?_⟩
          rintro ⟨before, hbefore, hrun⟩
          exact ⟨before, hlater before hbefore, hrun⟩
      | inl hfirst =>
          subst hfirst
          refine ⟨List.mem_cons_self, ?_⟩
          dsimp only
          split
          · next before others heq =>
            split
            · next hnext =>
              exact .inr ⟨before, hlater before (heq ▸ List.mem_cons_self), hnext, rfl⟩
            · exact .inl rfl
          · exact .inl rfl

/-- Runs that are extended by a line. -/
theorem ends_extendRuns {i : Nat} (hlow : w.leftLow ≤ i) (hhigh : i < w.leftHigh) {js : List Nat}
    (hjs : ∀ j ∈ js, w.rightLow ≤ j ∧ j < w.rightHigh ∧ a[i]? = b[j]?)
    {earlier : List (Nat × Nat)} (hearlier : ∀ run ∈ earlier, Ends a b w i run) :
    ∀ run ∈ extendRuns js earlier, Ends a b w (i + 1) run := by
  rintro ⟨j, size⟩ hrun
  obtain ⟨hj, hsize⟩ := mem_extendRuns hrun
  obtain ⟨hright, hright', hline⟩ := hjs j hj
  dsimp only at hj hsize
  rcases hsize with rfl | ⟨⟨j', size'⟩, hbefore, rfl, rfl⟩
  · refine ⟨⟨hlow, hhigh, hright, hright', fun k hk => ?_⟩, by simp, by simp⟩
    obtain rfl : k = 0 := by simpa [endingAt] using hk
    exact hline
  · obtain ⟨hends, hleft, hback⟩ := hearlier _ hbefore
    have hmoved : endingAt (i + 1) (j' + 1, size' + 1) =
        { endingAt i (j', size') with size := size' + 1 } := by
      simp [endingAt]
    have hstop : i - size' + size' = i := Nat.sub_add_cancel hleft
    have hstop' : j' + 1 - size' + size' = j' + 1 := Nat.sub_add_cancel hback
    refine ⟨hmoved ▸ hends.forward ?_ ?_ ?_, Nat.succ_le_succ hleft, Nat.succ_le_succ hback⟩
    · simpa only [endingAt, hstop] using hhigh
    · simpa only [endingAt, hstop'] using hright'
    · simpa only [endingAt, hstop, hstop'] using hline

/-- Of runs that end before a line, the longest is a run. -/
theorem isRun_improve {i : Nat} {runs : List (Nat × Nat)}
    (hruns : ∀ run ∈ runs, Ends a b w (i + 1) run) (h : IsRun a b w m) :
    IsRun a b w (runs.foldl (improve i) m) := by
  induction runs generalizing m with
  | nil => exact h
  | cons run rest ih =>
      obtain ⟨hrun, hrest⟩ := List.forall_mem_cons.mp hruns
      refine ih hrest ?_
      unfold improve
      split
      · exact hrun.isRun
      · exact h

variable [DecidableEq α]

/-- Anchors are places of equal lines. -/
theorem getElem?_of_mem_anchors {line : α} {j : Nat} (h : j ∈ anchors b line) :
    b[j]? = some line := by
  unfold anchors at h
  dsimp only at h
  split at h
  · cases h
  · simpa using (List.mem_filter.mp h).2

/-- The places of anchors, for every line of the left row. -/
theorem getElem?_of_mem_places {i j : Nat} (h : j ∈ (a.map (anchors b))[i]?.getD []) :
    a[i]? = b[j]? := by
  rw [Array.getElem?_map] at h
  cases hline : a[i]? with
  | none => simp [hline] at h
  | some line =>
      rw [hline] at h
      exact (getElem?_of_mem_anchors h).symm

/-- What is known of runs when a line of the left row has been seen. -/
def seeLine (places : Array (List Nat)) (w : Window) (seen : List (Nat × Nat) × Match) (i : Nat) :
    List (Nat × Nat) × Match :=
  let here := (places[i]?.getD []).filter fun j =>
    decide (w.rightLow ≤ j) && decide (j < w.rightHigh)
  let runs := extendRuns here seen.1
  (runs, runs.foldl (improve i) seen.2)

/-- **Step**: the runs that end before a line, and the longest one so far. -/
theorem isRun_seeLine {i : Nat} (hlow : w.leftLow ≤ i) (hhigh : i < w.leftHigh)
    {seen : List (Nat × Nat) × Match} (hruns : ∀ run ∈ seen.1, Ends a b w i run)
    (hbest : IsRun a b w seen.2) :
    (∀ run ∈ (seeLine (a.map (anchors b)) w seen i).1, Ends a b w (i + 1) run) ∧
      IsRun a b w (seeLine (a.map (anchors b)) w seen i).2 := by
  have hhere : ∀ j ∈ ((a.map (anchors b))[i]?.getD []).filter fun j =>
      decide (w.rightLow ≤ j) && decide (j < w.rightHigh),
      w.rightLow ≤ j ∧ j < w.rightHigh ∧ a[i]? = b[j]? := by
    intro j hj
    obtain ⟨hplace, hwithin⟩ := List.mem_filter.mp hj
    simp only [Bool.and_eq_true, decide_eq_true_eq] at hwithin
    exact ⟨hwithin.1, hwithin.2, getElem?_of_mem_places hplace⟩
  have hextended := ends_extendRuns hlow hhigh hhere hruns
  exact ⟨hextended, isRun_improve hextended hbest⟩

/-- **Run**: the longest of all anchored runs. -/
theorem isRun_longestAnchored (hleft : w.leftLow ≤ w.leftHigh) (hright : w.rightLow ≤ w.rightHigh) :
    IsRun a b w (longestAnchored (a.map (anchors b)) w) := by
  have hseen : ∀ (count i : Nat) (seen : List (Nat × Nat) × Match), w.leftLow ≤ i →
      i + count ≤ w.leftHigh → (∀ run ∈ seen.1, Ends a b w i run) → IsRun a b w seen.2 →
      IsRun a b w ((List.range' i count).foldl (seeLine (a.map (anchors b)) w) seen).2 := by
    intro count
    induction count with
    | zero => exact fun _ _ _ _ _ hbest => hbest
    | succ count ih =>
        intro i seen hlow hhigh hruns hbest
        obtain ⟨hruns, hbest⟩ := isRun_seeLine hlow (by omega) hruns hbest
        exact ih (i + 1) _ (by omega) (by omega) hruns hbest
  exact hseen _ _ _ (Nat.le_refl _) (by omega) (fun _ h => nomatch h)
    ⟨Nat.le_refl _, hleft, Nat.le_refl _, hright, fun _ hk => absurd hk (Nat.not_lt_zero _)⟩

/-! ## Runs that have grown -/

theorem isRun_growBack (fuel : Nat) (h : IsRun a b w m) : IsRun a b w (growBack a b w fuel m) := by
  induction fuel generalizing m with
  | zero => exact h
  | succ fuel ih =>
      rw [growBack]
      split
      · next hgrow => exact ih (h.back hgrow.1 hgrow.2.1 hgrow.2.2)
      · exact h

theorem isRun_growForward (fuel : Nat) (h : IsRun a b w m) :
    IsRun a b w (growForward a b w fuel m) := by
  induction fuel generalizing m with
  | zero => exact h
  | succ fuel ih =>
      rw [growForward]
      split
      · next hgrow => exact ih (h.forward hgrow.1 hgrow.2.1 hgrow.2.2)
      · exact h

/-- The longest run of equal lines is a run. -/
theorem isRun_longestMatch (hleft : w.leftLow ≤ w.leftHigh) (hright : w.rightLow ≤ w.rightHigh) :
    IsRun a b w (longestMatch a b (a.map (anchors b)) w) :=
  isRun_growForward a.size (isRun_growBack a.size (isRun_longestAnchored hleft hright))

/-! ## All runs -/

theorem isMatching_matchesWithin (fuel : Nat) (hleft : w.leftLow ≤ w.leftHigh)
    (hright : w.rightLow ≤ w.rightHigh) :
    IsMatching a b w (matchesWithin a b (a.map (anchors b)) fuel w) := by
  induction fuel generalizing w with
  | zero => exact .nil
  | succ fuel ih =>
      have hrun : IsRun a b w (longestMatch a b (a.map (anchors b)) w) :=
        isRun_longestMatch hleft hright
      simp only [matchesWithin]
      split
      · exact .nil
      · exact .around hrun (ih hrun.leftLow hrun.rightLow) (ih hrun.leftHigh hrun.rightHigh)

/-- **Matching**: the runs that two rows are matched by. -/
theorem isMatching_matching (xs ys : List α) :
    IsMatching xs.toArray ys.toArray
      { leftLow := 0, leftHigh := xs.length, rightLow := 0, rightHigh := ys.length }
      (matching xs ys) :=
  isMatching_matchesWithin _ (Nat.zero_le _) (Nat.zero_le _)

end SchemeCheck.Diff

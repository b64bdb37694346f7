import SchemeCheck.Proofs.Diff.Patch
import SchemeCheck.Report

/-!
# SchemeCheck.Proofs.Diff.Message

The message about two outputs that differ, read again.  It is cut at its line feeds:
a heading, the names of both sides, hunks as far as the counts of their heads go, a
closing line, and after it the actual output (`Mismatch.read?`).  None of the lines
before the output holds a line feed, so they are found as they were written, and what
is read is a patch from what was expected to what came: `streamFailure?_patch`.
-/

namespace SchemeCheck

open Diff

/-- The message about two outputs that differ, as it is read. -/
structure Mismatch where
  heading : Capture
  leftName : Capture
  rightName : Capture
  portions : List (Portion Capture)
  closing : Capture
  actual : Capture
  deriving DecidableEq

/-- Read the message about two outputs that differ. -/
def Mismatch.read? (message : Capture) : Option Mismatch :=
  match Text.splitOn (.char '\n') message with
  | heading :: leftName :: rightName :: lines =>
    match readOn 0 0 lines with
    | some (_, portions, closing :: line :: more) =>
      some
        { heading := heading
          leftName := leftName
          rightName := rightName
          portions := portions
          closing := closing
          actual := Text.joinWith [.char '\n'] (line :: more) }
    | _ => none
  | _ => none

namespace Diff

/-- A portion that says of two rows what stands in them: as many lines as its head
counts, and just those in its ranges. -/
structure Portion.Fits {α : Type} (portion : Portion α) (xs ys : List α) : Prop where
  leftCount : portion.before.length = portion.left.count
  rightCount : portion.after.length = portion.right.count
  before : portion.before = portion.left.of xs
  after : portion.after = portion.right.of ys

/-- What is in a range of a row is in the row. -/
theorem Range.mem_of_mem_of {α : Type} {range : Range} {lines : List α} {line : α}
    (h : line ∈ range.of lines) : line ∈ lines :=
  List.mem_of_mem_drop (List.mem_of_mem_take h)

/-- The hunks of two rows fit them. -/
theorem fits_of_mem_hunks {α : Type} [DecidableEq α] {xs ys : List α} {hunk : Hunk α}
    (h : hunk ∈ hunks (script xs ys)) : hunk.portion.Fits xs ys := by
  have hleads := leads_hunks (script xs ys)
  rw [before_script, after_script] at hleads
  obtain ⟨hbefore, hafter⟩ := hleads.slice_eq [] [] rfl rfl hunk h
  exact
    { leftCount := congrArg List.length hunk.before_portion
      rightCount := congrArg List.length hunk.after_portion
      before := hunk.before_portion.trans hbefore.symm
      after := hunk.after_portion.trans hafter.symm }

/-! ## Line feeds -/

theorem not_mem_headText (hunk : Hunk Capture) : '\n' ∉ hunk.headText := by
  have hrange (start length : Nat) : '\n' ∉ rangeText start length :=
    not_mem_rangeText (by decide) (by decide) start length
  simp [hunk.headText_eq, hrange]

/-- A line feed in a capture of text is one of the text. -/
theorem not_mem_ofText {text : Text} (h : '\n' ∉ text) :
    Symbol.char '\n' ∉ Capture.ofText text := by
  simpa [Capture.ofText] using h

/-- The hunks of rows without line feeds are rendered without line feeds. -/
theorem not_mem_of_mem_render {xs ys : List Capture} (hxs : ∀ line ∈ xs, .char '\n' ∉ line)
    (hys : ∀ line ∈ ys, .char '\n' ∉ line) {hunk : Hunk Capture}
    (h : hunk ∈ hunks (script xs ys)) : ∀ line ∈ hunk.render, Symbol.char '\n' ∉ line := by
  have hfits := fits_of_mem_hunks h
  have hbefore : ∀ line ∈ hunk.portion.before, Symbol.char '\n' ∉ line := fun line hline =>
    hxs line (Range.mem_of_mem_of (hfits.before ▸ hline))
  have hafter : ∀ line ∈ hunk.portion.after, Symbol.char '\n' ∉ line := fun line hline =>
    hys line (Range.mem_of_mem_of (hfits.after ▸ hline))
  rw [Hunk.render_eq]
  refine List.forall_mem_cons.mpr ⟨not_mem_ofText (not_mem_headText hunk), ?_⟩
  intro marked hmarked
  obtain ⟨edit, hedit, rfl⟩ := List.mem_map.mp hmarked
  cases edit with
  | keep line =>
      simpa [Edit.marked] using
        hbefore line (List.mem_flatMap.mpr ⟨_, hedit, List.mem_singleton_self line⟩)
  | remove line =>
      simpa [Edit.marked] using
        hbefore line (List.mem_flatMap.mpr ⟨_, hedit, List.mem_singleton_self line⟩)
  | add line =>
      simpa [Edit.marked] using
        hafter line (List.mem_flatMap.mpr ⟨_, hedit, List.mem_singleton_self line⟩)

/-- A line that ends in a colon is no head. -/
theorem readHead?_colon (text : Text) : readHead? (text ++ [':']) = none := by
  obtain ⟨piece, hpiece⟩ := Text.getLast?_splitOn_concat (show ':' ≠ ' ' by decide) text
  unfold readHead?
  split
  · next hsplit =>
    rw [hsplit] at hpiece
    have hlast : ['@', '@'] = piece ++ [':'] := by simpa using hpiece
    have hcolon : ':' ∈ ['@', '@'] := hlast ▸ List.mem_append_right piece List.mem_cons_self
    exact absurd hcolon (by decide)
  · rfl

end Diff

namespace Report

/-- The lines of a message before the actual output. -/
def mismatchLines (name : Text) (want got : Capture) : List Capture :=
  Capture.ofText ("Failed matching ".toList ++ name ++ " (-missing line, +extra line):".toList) ::
    (unified ("want ".toList ++ name) ("got ".toList ++ name) want.lineBodies got.lineBodies ++
      [Capture.ofText (name ++ [':'])])

/-- The message is these lines, closed, and the output. -/
theorem streamMismatch_eq (name : Text) (want got : Capture) :
    streamMismatch name want got =
      Text.closeLines (.char '\n') (mismatchLines name want got) ++ got := by
  have hdiff : unified ("want ".toList ++ name) ("got ".toList ++ name) want.lineBodies
      got.lineBodies ≠ [] := List.cons_ne_nil _ _
  unfold streamMismatch mismatchLines
  generalize unified _ _ _ _ = diff at hdiff ⊢
  have hjoined := Text.joinWith_append_cons hdiff (.char '\n')
    (Capture.ofText (name ++ [':']) ++ .char '\n' :: got)
  have hheading : " (-missing line, +extra line):\n".toList =
      " (-missing line, +extra line):".toList ++ ['\n'] := rfl
  have hclosing : ":\n".toList = [':', '\n'] := rfl
  simp only [hheading, hclosing, Capture.ofText, List.map_append, List.map_cons, List.map_nil,
    Text.closeLines, List.flatMap_cons, List.flatMap_append, List.flatMap_nil, List.append_assoc,
    List.cons_append, List.nil_append, List.append_nil] at hjoined ⊢
  rw [← hjoined]

/-- No line of a message before the output holds a line feed. -/
theorem not_mem_of_mem_mismatchLines {name : Text} (hname : '\n' ∉ name) {want got : Capture} :
    ∀ line ∈ mismatchLines name want got, Symbol.char '\n' ∉ line := by
  have hbodies (capture : Capture) : ∀ line ∈ capture.lineBodies, Symbol.char '\n' ∉ line :=
    fun _ => Text.not_mem_of_mem_cutLines
  intro line hline
  simp only [mismatchLines, unified, List.mem_cons, List.mem_append, List.mem_flatMap,
    List.not_mem_nil, or_false] at hline
  rcases hline with rfl | (rfl | rfl | ⟨hunk, hhunk, hline⟩) | rfl
  · exact not_mem_ofText (by simp [hname])
  · exact not_mem_ofText (by simp [hname])
  · exact not_mem_ofText (by simp [hname])
  · exact not_mem_of_mem_render (hbodies want) (hbodies got) hhunk line hline
  · exact not_mem_ofText (by simp [hname])

/-- The message is read as it was written. -/
theorem read?_streamMismatch {name : Text} (hname : '\n' ∉ name) (want got : Capture) :
    Mismatch.read? (streamMismatch name want got) = some
      { heading := Capture.ofText
          ("Failed matching ".toList ++ name ++ " (-missing line, +extra line):".toList)
        leftName := Capture.ofText ("--- ".toList ++ ("want ".toList ++ name))
        rightName := Capture.ofText ("+++ ".toList ++ ("got ".toList ++ name))
        portions := (hunks (script want.lineBodies got.lineBodies)).map Hunk.portion
        closing := Capture.ofText (name ++ [':'])
        actual := got } := by
  have hcut : Text.splitOn (.char '\n') (streamMismatch name want got) =
      mismatchLines name want got ++ Text.splitOn (.char '\n') got := by
    rw [streamMismatch_eq, Text.splitOn_closeLines_append (not_mem_of_mem_mismatchLines hname)]
  obtain ⟨line, more, hgot⟩ :=
    List.exists_cons_of_ne_nil (Text.splitOn_ne_nil (Symbol.char '\n') got)
  have hstop : readOn 0 0 (Capture.ofText (name ++ [':']) :: line :: more) =
      some ([], [], Capture.ofText (name ++ [':']) :: line :: more) := by
    rw [readOn, if_pos ⟨rfl, rfl⟩, text?_ofText, Option.bind_some, readHead?_colon]
  have hread := readOn_render hstop (hunks (script want.lineBodies got.lineBodies))
  rw [Mismatch.read?, hcut, hgot, mismatchLines, unified]
  simp only [List.cons_append, List.append_assoc, List.nil_append, hread]
  rw [← hgot, Text.joinWith_splitOn]

/-- **Mismatch**: the message about two outputs that differ is a patch.  Read by the
counts in the heads of its hunks, it has lines that only one side has; every hunk says
what stands in its ranges on either side; and applied to the lines of what was
expected, the hunks give those of the actual output, which stands below verbatim. -/
theorem streamFailure?_patch {name : Text} (hname : '\n' ∉ name) {want got : Capture}
    (hdiffer : want.lineBodies ≠ got.lineBodies) :
    ∃ message mismatch, streamFailure? name want got = some message ∧
      Mismatch.read? message = some mismatch ∧
      mismatch.heading = Capture.ofText
        ("Failed matching ".toList ++ name ++ " (-missing line, +extra line):".toList) ∧
      mismatch.leftName = Capture.ofText ("--- want ".toList ++ name) ∧
      mismatch.rightName = Capture.ofText ("+++ got ".toList ++ name) ∧
      mismatch.closing = Capture.ofText (name ++ [':']) ∧
      mismatch.actual = got ∧
      (∃ portion ∈ mismatch.portions, ∃ edit ∈ portion.edits, edit.isChange = true) ∧
      (∀ portion ∈ mismatch.portions, portion.Fits want.lineBodies got.lineBodies) ∧
      applyFrom 0 mismatch.portions want.lineBodies = some got.lineBodies := by
  have hleads := leads_hunks (script want.lineBodies got.lineBodies)
  rw [before_script, after_script] at hleads
  refine ⟨streamMismatch name want got, _, if_neg hdiffer, read?_streamMismatch hname want got,
    rfl, rfl, rfl, rfl, rfl, ?_, ?_, hleads.applyFrom_eq⟩
  · obtain ⟨hunk, hmem, hne⟩ := hleads.exists_ne hdiffer
    refine ⟨hunk.portion, List.mem_map_of_mem hmem, Portion.exists_change ?_⟩
    rwa [hunk.before_portion, hunk.after_portion]
  · intro portion hportion
    obtain ⟨hunk, hmem, rfl⟩ := List.mem_map.mp hportion
    exact fits_of_mem_hunks hmem

/-- Lines that look like heads and marked lines, around lines of which there are too
many for one hunk; the last one is not closed. -/
theorem streamFailure?_patch_two_hunks :
    let want := Capture.ofText "--- a\n1\n2\n3\n-4\n5\n6\n7\n".toList
    let got := Capture.ofText "1\r\n2\n3\n-4\n5\n6\n7\n@@ -1 +1 @@\nstdout:".toList
    '\n' ∉ "stdout".toList ∧ want.lineBodies ≠ got.lineBodies ∧
    ∃ message mismatch, streamFailure? "stdout".toList want got = some message ∧
      Mismatch.read? message = some mismatch ∧
      mismatch.leftName = Capture.ofText "--- want stdout".toList ∧
      mismatch.closing = Capture.ofText "stdout:".toList ∧
      mismatch.actual = got ∧
      (mismatch.portions.map fun portion => (portion.left, portion.right)) =
        [({ start := 0, count := 4 }, { start := 0, count := 3 }),
          ({ start := 5, count := 3 }, { start := 4, count := 5 })] ∧
      applyFrom 0 mismatch.portions want.lineBodies = some
        (["1", "2", "3", "-4", "5", "6", "7", "@@ -1 +1 @@", "stdout:"].map fun line =>
          Capture.ofText line.toList) := by
  intro want got
  have hname : '\n' ∉ "stdout".toList := by decide
  have hdiffer : want.lineBodies ≠ got.lineBodies := by decide +kernel
  have hgot : got.lineBodies = ["1", "2", "3", "-4", "5", "6", "7", "@@ -1 +1 @@", "stdout:"].map
      fun line => Capture.ofText line.toList := by decide +kernel
  obtain ⟨message, mismatch, hmessage, hread, -, hleft, -, hclosing, hactual, -, -, happlied⟩ :=
    streamFailure?_patch hname hdiffer
  have hranges : ((streamFailure? "stdout".toList want got).bind Mismatch.read?).map
      (fun mismatch => mismatch.portions.map fun portion => (portion.left, portion.right)) = some
        [({ start := 0, count := 4 }, { start := 0, count := 3 }),
          ({ start := 5, count := 3 }, { start := 4, count := 5 })] := by
    decide +kernel
  rw [hmessage, Option.bind_some, hread] at hranges
  exact ⟨hname, hdiffer, message, mismatch, hmessage, hread, hleft, hclosing, hactual,
    Option.some.inj hranges, hgot ▸ happlied⟩

end Report

end SchemeCheck

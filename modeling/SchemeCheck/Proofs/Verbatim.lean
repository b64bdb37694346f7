import SchemeCheck.Proofs.Report
import SchemeCheck.Proofs.Scheme.Acceptance

/-!
# SchemeCheck.Proofs.Verbatim

A scheme that expects the output of a program as it stands: the text is put
below `--stdout`, and the program writes just this text.  The lines of the
scheme are the lines of the text, each of them payload, so the plan expects
their closed lines (`interpret_verbatim`).  The comparison segments the closed
lines once more, and a line that still ends in a carriage return loses it there.
`passed_verbatim_iff` is the law that follows: the comparison is passed exactly
if no line of the text ends in two carriage returns.
-/

namespace SchemeCheck

namespace Scheme

/-! ## A row of payload -/

/-- Payload is never refused: the open block takes one line after another. -/
theorem feedFrom_payload {rules : Rules} {lines : List Text}
    (h : ∀ line ∈ lines, classify line = .payload) (lineNum : Int) (state : State)
    (warnings : List Warning) :
    feedFrom rules lineNum lines { state := state, warnings := warnings, outcome := .ok () } =
      { state := lines.foldl (fun state line => state.take rules line) state
        warnings := warnings
        outcome := .ok () } := by
  induction lines generalizing lineNum state with
  | nil => rfl
  | cons line rest ih =>
      have hrest : ∀ other ∈ rest, classify other = .payload := fun other hm =>
        h other (List.mem_cons_of_mem line hm)
      have hstep : state.advance warnings (state.feed rules line lineNum) =
          { state := state.take rules line, warnings := warnings, outcome := .ok () } := by
        simp [State.feed, h line List.mem_cons_self, State.advance, Noted.warnings_pure]
      rw [feedFrom, List.foldl_cons]
      simp only [hstep]
      exact ih hrest (lineNum + 1) (state.take rules line)

/-- The open block collects a row of payload: standard input as it stands, everything
else with the root put in. -/
theorem foldl_take (rules : Rules) (lines : List Text) (state : State) :
    lines.foldl (fun state line => state.take rules line) state =
      let substituted := lines.map (Placeholder.substitute rules.root)
      match state.block with
      | .none => state
      | .stdin => { state with stdin := state.stdin ++ lines }
      | .stdout => { state with stdout := state.stdout ++ substituted }
      | .stderr => { state with stderr := state.stderr ++ substituted }
      | .file => { state with pendingContent := state.pendingContent ++ substituted } := by
  induction lines generalizing state with
  | nil => split <;> simp
  | cons line rest ih =>
      rw [List.foldl_cons, ih, State.block_take]
      cases hblock : state.block <;> simp [State.take, hblock]

/-- No file is stored where none is open. -/
theorem openBlock_of_ne_file {state : State} (h : state.block ≠ .file) (rules : Rules)
    (block : Block) : state.openBlock rules block = Noted.pure { state with block := block } := by
  rw [openBlock_eq, State.storeRemark?, if_neg (by simp [h]), State.flushed, if_neg h]
  rfl

/-- A line that opens a block where no file is open, and the payload that follows it. -/
theorem feedFrom_block {rules : Rules} {opening : Text} {block : Block} {lineNum : Int}
    {state : State} (hblock : state.block ≠ .file)
    (hopen : state.feed rules opening lineNum = state.openBlock rules block) {lines : List Text}
    (h : ∀ line ∈ lines, classify line = .payload) (warnings : List Warning) :
    feedFrom rules lineNum (opening :: lines)
      { state := state, warnings := warnings, outcome := .ok () } =
      { state := lines.foldl (fun state line => state.take rules line) { state with block := block }
        warnings := warnings
        outcome := .ok () } := by
  rw [feedFrom]
  simp only [hopen, openBlock_of_ne_file hblock, State.advance, Noted.result_pure,
    Noted.warnings_pure, List.append_nil]
  exact feedFrom_payload h _ _ _

/-! ## The scheme -/

def stdoutLine : Text :=
  Directive.stdout.mark ++ ['\n']

/-- A mark that stands alone in the first line is that line. -/
theorem lines_mark_append (directive : Directive) (text : Text) :
    Text.lines (directive.mark ++ ['\n'] ++ text) =
      (directive.mark ++ ['\n']) :: Text.lines text := by
  have hfeed : '\n' ∉ directive.mark := by cases directive <;> decide
  have hchomp : Text.chomp '\r' directive.mark = directive.mark := by cases directive <;> decide
  have hcut : Text.lineBodies (directive.mark ++ ['\n'] ++ text) =
      directive.mark :: Text.lineBodies text := by
    rw [List.append_assoc]
    exact (Text.cutLines_append hfeed '\r' text).trans (congrArg (· :: _) hchomp)
  rw [Text.lines, hcut, List.map_cons, Text.lines]

theorem lines_stdoutLine_append (text : Text) :
    Text.lines (stdoutLine ++ text) = stdoutLine :: Text.lines text :=
  lines_mark_append .stdout text

/-- A line of a text without directives is payload. -/
theorem classify_of_mem_lines {text line : Text}
    (h : ∀ piece ∈ Text.splitOn '\n' text, ¬ directiveMark <+: piece)
    (hline : line ∈ Text.lines text) : classify line = .payload := by
  obtain ⟨body, hbody, rfl⟩ := List.mem_map.mp hline
  obtain ⟨piece, hpiece, rfl⟩ := Text.exists_of_mem_cutLines hbody
  rw [classify_eq_payload_iff, List.prefix_concat_iff, not_or]
  constructor
  · intro heq
    have hmem : '\n' ∈ directiveMark := heq ▸ List.mem_concat_self
    exact absurd hmem (by decide)
  · exact fun hp => h piece hpiece (hp.trans (Text.chomp_isPrefix '\r' piece))

/-- A text without the placeholder has none in its lines. -/
theorem substitute_of_mem_lines {text line : Text}
    (h : ¬ Placeholder.token Placeholder.rootName <:+: text) (hline : line ∈ Text.lines text)
    (root : Text) : Placeholder.substitute root line = line := by
  obtain ⟨body, hbody, rfl⟩ := List.mem_map.mp hline
  refine Placeholder.substitute_of_not_infix ?_ root
  rw [List.infix_concat_iff, not_or]
  constructor
  · -- The token would end in the line feed.
    rintro ⟨front, hfront⟩
    have hlast := congrArg List.getLast? hfront
    have htoken : (Placeholder.token Placeholder.rootName).getLast? = some '\x7d' := rfl
    rw [List.getLast?_append, List.getLast?_concat, htoken] at hlast
    cases hlast
  · exact fun hi => h (hi.trans (Text.infix_of_mem_cutLines hbody))

theorem map_substitute_lines {text : Text}
    (h : ¬ Placeholder.token Placeholder.rootName <:+: text) (root : Text) :
    (Text.lines text).map (Placeholder.substitute root) = Text.lines text :=
  (List.map_congr_left fun _ hline => substitute_of_mem_lines h hline root).trans (List.map_id _)

/-- **A block of standard output** that is opened for a text has the lines of the text. -/
theorem feedFrom_stdoutLine {rules : Rules} {text : Text}
    (hdir : ¬ Placeholder.token Placeholder.rootName <:+: text)
    (hpayload : ∀ piece ∈ Text.splitOn '\n' text, ¬ directiveMark <+: piece) (lineNum : Int)
    {state : State} (hblock : state.block ≠ .file) (warnings : List Warning) :
    feedFrom rules lineNum (stdoutLine :: Text.lines text)
      { state := state, warnings := warnings, outcome := .ok () } =
      { state := { state with block := .stdout, stdout := state.stdout ++ Text.lines text }
        warnings := warnings
        outcome := .ok () } := by
  have hclassify : ∀ line ∈ Text.lines text, classify line = .payload := fun line hline =>
    classify_of_mem_lines hpayload hline
  rw [feedFrom_block hblock rfl hclassify, foldl_take]
  simp only [map_substitute_lines hdir]

/-- The plan of such a scheme expects the closed lines of the text. -/
theorem interpret_verbatim {rules : Rules} {text : Text}
    (hdir : ¬ Placeholder.token Placeholder.rootName <:+: text)
    (hpayload : ∀ piece ∈ Text.splitOn '\n' text, ¬ directiveMark <+: piece)
    (hlimit : ∀ most ∈ rules.maxLineSize,
      ∀ body ∈ Text.lineBodies (stdoutLine ++ text), (body.length : Int) ≤ most) :
    ∃ plan, (interpret rules (stdoutLine ++ text)).outcome = .ok plan ∧
      plan.stdout = Text.closeLines '\n' (Text.lineBodies text) ∧
      plan.stderr = [] ∧ plan.returnCode = 0 := by
  have hfed : feedFrom rules 0 (stdoutLine :: Text.lines text)
      { state := {}, warnings := [], outcome := .ok () } =
      { state := { block := .stdout, stdout := Text.lines text }
        warnings := []
        outcome := .ok () } :=
    feedFrom_stdoutLine hdir hpayload 0 (by decide) []
  unfold interpret
  rw [linesWithin_of_forall_le hlimit, lines_stdoutLine_append]
  simp only [hfed]
  exact ⟨_, rfl, rfl, rfl, rfl⟩

end Scheme

/-! ## The comparison -/

/-- **Verbatim output**: a text that is put below `--stdout` and written as it
stands passes exactly if none of its lines ends in two carriage returns. -/
theorem passed_verbatim_iff {rules : Scheme.Rules} {text : Text}
    (hdir : ¬ Placeholder.token Placeholder.rootName <:+: text)
    (hpayload : ∀ piece ∈ Text.splitOn '\n' text, ¬ Scheme.directiveMark <+: piece)
    (hlimit : ∀ most ∈ rules.maxLineSize,
      ∀ body ∈ Text.lineBodies (Scheme.stdoutLine ++ text), (body.length : Int) ≤ most) :
    ∃ plan, (Scheme.interpret rules (Scheme.stdoutLine ++ text)).outcome = .ok plan ∧
      ((Report.compare plan
          { stdout := Capture.ofText text, stderr := [], returnCode := 0 }).passed = true ↔
        ∀ piece ∈ Text.splitOn '\n' text, ¬ ['\r', '\r'] <:+ piece) := by
  obtain ⟨plan, hplan, hstdout, hstderr, hcode⟩ :=
    Scheme.interpret_verbatim hdir hpayload hlimit
  refine ⟨plan, hplan, ?_⟩
  have hbodies : (Capture.ofText plan.stdout).lineBodies =
      ((Text.lineBodies text).map (Text.chomp '\r')).map Capture.ofText := by
    rw [Capture.lineBodies_ofText, hstdout]
    exact congrArg _ (Text.cutLines_closeLines '\r' fun _ hb => Text.not_mem_of_mem_cutLines hb)
  rw [Report.passed_compare_iff, Outcome.Meets, hstderr, hcode, ← Capture.lineBodies_eq_iff,
    hbodies, Capture.lineBodies_ofText, List.map_inj_right fun _ _ => Capture.ofText_inj.mp,
    ← Text.map_chomp_cutLines_iff]
  exact ⟨fun h => h.2.1.symm, fun h => ⟨rfl, h.symm, rfl⟩⟩

/-- Line endings of the other kind pass, under any root. -/
theorem passed_verbatim_iff_crlf :
    let rules : Scheme.Rules := { root := "/r".toList, maxLineSize := some 8 }
    let text := "a\r\n\r\nb".toList
    ∃ plan, (Scheme.interpret rules (Scheme.stdoutLine ++ text)).outcome = .ok plan ∧
      (Report.compare plan
        { stdout := Capture.ofText text, stderr := [], returnCode := 0 }).passed = true := by
  intro rules text
  have hlimit : ∀ most ∈ rules.maxLineSize,
      ∀ body ∈ Text.lineBodies (Scheme.stdoutLine ++ text), (body.length : Int) ≤ most := by
    decide +kernel
  obtain ⟨plan, hplan, hpassed⟩ := passed_verbatim_iff (by decide +kernel) (by decide +kernel) hlimit
  exact ⟨plan, hplan, hpassed.mpr (by decide +kernel)⟩

/-- A line that ends in two carriage returns does not pass as it stands. -/
theorem not_passed_verbatim :
    ¬ ∀ (rules : Scheme.Rules) (text : Text),
      ¬ Placeholder.token Placeholder.rootName <:+: text →
      (∀ piece ∈ Text.splitOn '\n' text, ¬ Scheme.directiveMark <+: piece) →
      (∀ most ∈ rules.maxLineSize,
        ∀ body ∈ Text.lineBodies (Scheme.stdoutLine ++ text), (body.length : Int) ≤ most) →
      ∃ plan, (Scheme.interpret rules (Scheme.stdoutLine ++ text)).outcome = .ok plan ∧
        (Report.compare plan
          { stdout := Capture.ofText text, stderr := [], returnCode := 0 }).passed = true := by
  intro h
  obtain ⟨plan, hplan, hpassed⟩ := h { root := "/r".toList } "a\r\r\n".toList
    (by decide +kernel) (by decide +kernel) (by decide +kernel)
  -- The plan expects one carriage return, of which the comparison leaves none.
  have hread : (Scheme.interpret { root := "/r".toList }
      (Scheme.stdoutLine ++ "a\r\r\n".toList)).outcome =
      .ok { rootDir := Path.ofText "/r".toList, files := [], args := [], env := [], stdin := []
            stdout := "a\r\n".toList, stderr := [], returnCode := 0
            scheme := Scheme.stdoutLine ++ "a\r\r\n".toList } := by
    decide +kernel
  rw [hread] at hplan
  cases hplan
  exact absurd hpassed (by decide +kernel)

end SchemeCheck

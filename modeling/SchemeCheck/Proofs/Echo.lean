import SchemeCheck.Proofs.Encoding.Utf8
import SchemeCheck.Proofs.Execution.Building
import SchemeCheck.Proofs.Execution.Completion
import SchemeCheck.Proofs.Staging
import SchemeCheck.Proofs.Verbatim
import SchemeCheck.Proofs.Verdict

/-!
# SchemeCheck.Proofs.Echo

A program that copies its input, run on a scheme that has the same text below
`--stdin` and below `--stdout`.  Both blocks of the plan hold the closed lines of
the text (`interpret_echoing`); they go to the program in UTF-8 and are captured
as they were (`result_run_echo`), and an outcome that is the plan itself meets it.
Nothing in this needs the text to be printable: carriage returns, control
characters and characters beyond the first plane pass as any other
(`execute_echo`).
-/

namespace SchemeCheck

namespace Scheme

/-! ## The scheme -/

def stdinLine : Text :=
  Directive.stdin.mark ++ ['\n']

/-- The scheme that gives a text to a program and expects it back. -/
def echoing (text : Text) : Text :=
  stdinLine ++ text ++ (stdoutLine ++ text)

/-- The plan of such a scheme: closed lines in, the same out. -/
def echoingPlan (root text : Text) : Plan where
  rootDir := Path.ofText root
  files := []
  args := []
  env := []
  stdin := Text.canonical '\n' '\r' text
  stdout := Text.canonical '\n' '\r' text
  stderr := []
  returnCode := 0
  scheme := echoing text

/-- A text whose last line is closed keeps its lines in both places. -/
theorem lines_echoing {text : Text} (hclosed : text = [] ∨ text.getLast? = some '\n') :
    Text.lines (echoing text) =
      stdinLine :: Text.lines text ++ stdoutLine :: Text.lines text := by
  have hfirst : stdinLine ++ text = [] ∨ (stdinLine ++ text).getLast? = some '\n' := by
    refine .inr ?_
    obtain rfl | hlast := hclosed
    · rfl
    · rw [List.getLast?_append, hlast]
      rfl
  have hcut : Text.lines (echoing text) =
      Text.lines (stdinLine ++ text) ++ Text.lines (stdoutLine ++ text) := by
    unfold Text.lines Text.lineBodies echoing
    rw [Text.cutLines_append_of_closed hfirst, List.map_append]
  rw [hcut, lines_stdoutLine_append, stdinLine, lines_mark_append]

/-- A block of standard input that is opened for a text has the lines of the text. -/
theorem feedFrom_stdinLine {rules : Rules} {text : Text}
    (hpayload : ∀ piece ∈ Text.splitOn '\n' text, ¬ directiveMark <+: piece) (lineNum : Int)
    {state : State} (hblock : state.block ≠ .file) (warnings : List Warning) :
    feedFrom rules lineNum (stdinLine :: Text.lines text)
      { state := state, warnings := warnings, outcome := .ok () } =
      { state := { state with block := .stdin, stdin := state.stdin ++ Text.lines text }
        warnings := warnings
        outcome := .ok () } := by
  have hclassify : ∀ line ∈ Text.lines text, classify line = .payload := fun line hline =>
    classify_of_mem_lines hpayload hline
  rw [feedFrom_block hblock rfl hclassify, foldl_take]

/-- **The plan of the scheme**, under any root. -/
theorem interpret_echoing {rules : Rules} {text : Text}
    (hclosed : text = [] ∨ text.getLast? = some '\n')
    (hdir : ¬ Placeholder.token Placeholder.rootName <:+: text)
    (hpayload : ∀ piece ∈ Text.splitOn '\n' text, ¬ directiveMark <+: piece)
    (hlimit : ∀ most ∈ rules.maxLineSize,
      ∀ body ∈ Text.lineBodies (echoing text), (body.length : Int) ≤ most) :
    (interpret rules (echoing text)).outcome = .ok (echoingPlan rules.root text) := by
  have hin : feedFrom rules 0 (stdinLine :: Text.lines text)
      { state := {}, warnings := [], outcome := .ok () } =
      { state := { block := .stdin, stdin := Text.lines text }
        warnings := []
        outcome := .ok () } :=
    feedFrom_stdinLine hpayload 0 (by decide) []
  -- The first half leaves the block of standard input open, which the second mark closes.
  have hout (lineNum : Int) : feedFrom rules lineNum (stdoutLine :: Text.lines text)
      { state := { block := .stdin, stdin := Text.lines text }
        warnings := []
        outcome := .ok () } =
      { state := { block := .stdout, stdin := Text.lines text, stdout := Text.lines text }
        warnings := []
        outcome := .ok () } :=
    feedFrom_stdoutLine hdir hpayload lineNum (fun h => by cases h) []
  unfold interpret
  rw [linesWithin_of_forall_le hlimit, lines_echoing hclosed]
  simp only [feedFrom_append, hin, hout]
  simp only [State.advance, State.flushFile, Noted.result_pure, Except.map, State.plan,
    Text.flatten_lines, ne_eq, reduceCtorEq, not_false_iff, if_true]
  rfl

end Scheme

/-! ## The program -/

/-- A process that copies its input to standard output, writes nothing to standard
error and ends with the code 0. -/
structure Execution.Running.Copies (running : Execution.Running) : Prop where
  stdout : ∀ input, running.stdout input = input
  stderr : ∀ input, running.stderr input = []
  code : running.code = .valid 0

namespace Harness

variable {harness : Harness} {program text : Text}

/-- Every process of a program, started without arguments, copies its input. -/
def Copies (harness : Harness) (program : Text) : Prop :=
  ∀ start : Execution.Start,
    start.argv = [Command.anchorProgram (Path.ofNames harness.cwd) program] →
    ∃ running, harness.starter start = .ok running ∧ running.Copies

/-- What a program that copies comes to on a plan without arguments: its standard
output is the input of the plan. -/
theorem result_run_echo (hencoding : Encoding.lookup harness.settings.encoding = .ok .utf8)
    (hcopies : harness.Copies program) {plan : Scheme.Plan} (hargs : plan.args = []) :
    (Execution.run harness.starter (harness.unadjusted program plan)).result =
      .ok { stdout := Capture.ofText plan.stdin, stderr := [], returnCode := 0 } := by
  let command := harness.unadjusted program plan
  obtain ⟨running, hstart, hcopy⟩ := hcopies (Execution.Start.ofCommand command) (by
    simp only [command, Execution.Start.ofCommand, Command.argv, unadjusted, hargs])
  have hinput : Execution.inputOf command = .ok (.utf8, Encoding.Utf8.encode plan.stdin) :=
    Execution.inputOf_eq_ok_iff.mpr ⟨hencoding, rfl⟩
  have hempty : Encoding.utf8.capture [] = .ok [] := Encoding.capture_encode []
  simp only [Execution.run, command, hstart, hinput, Execution.outcomeOf, hcopy.stdout,
    hcopy.stderr, hcopy.code, Encoding.capture_encode, hempty]
  rfl

/-- **Echo**: a program that copies its input passes the scheme that gives it a text
and expects the text back, and what it returns is the input of the plan. -/
theorem execute_echo (hencoding : Encoding.lookup harness.settings.encoding = .ok .utf8)
    (hprogram : program ≠ []) (hcopies : harness.Copies program)
    (hclosed : text = [] ∨ text.getLast? = some '\n')
    (hdir : ¬ Placeholder.token Placeholder.rootName <:+: text)
    (hpayload : ∀ piece ∈ Text.splitOn '\n' text, ¬ Scheme.directiveMark <+: piece)
    (hlimit : ∀ body ∈ Text.lineBodies (Scheme.echoing text),
      (body.length : Int) ≤ harness.settings.maxLineSize)
    (root : Path) (filename : Option Text) (fs : FileSystem) :
    ∃ plan outcome,
      (harness.prepare root filename (Scheme.echoing text) fs).result = .ok plan ∧
      (harness.execute root program [] filename (Scheme.echoing text) fs).result = .ok outcome ∧
      outcome.stdout = Capture.ofText plan.stdin ∧
      plan.stdin = Text.canonical '\n' '\r' text := by
  let plan := Scheme.echoingPlan root.text text
  let outcome : Outcome :=
    { stdout := Capture.ofText plan.stdin, stderr := [], returnCode := 0 }
  have hplan : (Scheme.interpret (harness.rules root filename) (Scheme.echoing text)).outcome =
      .ok plan :=
    Scheme.interpret_echoing hclosed hdir hpayload fun most hmost body hbody =>
      Option.some.inj hmost ▸ hlimit body hbody
  have hprepare : (harness.prepare root filename (Scheme.echoing text) fs).result = .ok plan := by
    simp only [prepare, hplan]
    rfl
  have hcommand := command_of_ne_nil hprogram harness plan
  have hrun := result_run_echo hencoding hcopies (show plan.args = [] from rfl)
  have hmeets : outcome.Meets plan := ⟨rfl, rfl, rfl⟩
  refine ⟨plan, outcome, hprepare, ?_, rfl, rfl⟩
  rw [result_execute hprepare hcommand hrun]
  exact judge_eq_ok_iff.mpr hmeets

/-- A program that is found from the current directory, lines that end in one or two
carriage returns, a null character, one beyond the first plane, and marks that are
just within the limit. -/
theorem execute_echo_returns :
    let harness : Harness :=
      { settings := { strict := true, maxLineSize := 8, encoding := "UTF8".toList }
        escalate := true, cwd := ["home".toList], ambient := []
        starter := fun start =>
          if start.argv = ["/home/bin/copy".toList] then
            .ok { stdout := id, stderr := fun _ => [], code := .valid 0 }
          else .error (.foreign "unknown".toList) }
    let text := "a\r\r\n\x00😀-\r\n\n\r\n".toList
    let root := Path.ofText "/r".toList
    (text = [] ∨ text.getLast? = some '\n') ∧
    ∃ outcome, (harness.execute root "bin/copy".toList [] none (Scheme.echoing text) ⟨[]⟩).result =
        .ok outcome ∧
      outcome.stdout = Capture.ofText "a\r\n\x00😀-\n\n\n".toList := by
  intro harness text root
  have hencoding : Encoding.lookup harness.settings.encoding = .ok .utf8 := by decide +kernel
  have hname : Command.anchorProgram (Path.ofNames harness.cwd) "bin/copy".toList =
      "/home/bin/copy".toList := by decide +kernel
  have hcopies : harness.Copies "bin/copy".toList := by
    intro start hstart
    rw [hname] at hstart
    exact ⟨_, if_pos hstart, fun _ => rfl, fun _ => rfl, rfl⟩
  have hclosed : text = [] ∨ text.getLast? = some '\n' := by decide +kernel
  have hcanonical : Text.canonical '\n' '\r' text = "a\r\n\x00😀-\n\n\n".toList := by
    decide +kernel
  obtain ⟨plan, outcome, -, hresult, hstdout, hstdin⟩ :=
    execute_echo hencoding (by decide) hcopies hclosed (by decide +kernel) (by decide +kernel)
      (by decide +kernel) root none ⟨[]⟩
  exact ⟨hclosed, outcome, hresult, by rw [hstdout, hstdin, hcanonical]⟩

end Harness

end SchemeCheck

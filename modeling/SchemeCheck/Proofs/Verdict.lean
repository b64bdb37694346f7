import Mathlib.Control.Monad.Basic
import SchemeCheck.Invocation
import SchemeCheck.Proofs.Report

/-!
# SchemeCheck.Proofs.Verdict

The verdict of an invocation whose program was run.  Nothing after the run
depends on anything but the plan and the outcome (`result_execute`), so the
verdict is that of the comparison: `execute_verdict` says that an invocation
answers the outcome exactly if the outcome meets the plan, and what it reports
otherwise.
-/

namespace SchemeCheck.Harness

open Invocation (Failure)

variable {harness : Harness} {root : Path} {program : Text}
  {adjustments : List Command.Adjustment} {filename : Option Text} {scheme : Text}
  {fs : FileSystem} {plan : Scheme.Plan} {command : Command} {outcome : Outcome}

/-- The outcome is answered exactly if it meets the plan. -/
theorem judge_eq_ok_iff :
    judge plan filename scheme outcome = .ok outcome ↔ outcome.Meets plan := by
  rw [← Report.passed_compare_iff]
  simp only [judge]
  split
  · next hpassed => simp only [hpassed]
  · next hfailed => simp only [hfailed, reduceCtorEq]

/-- Otherwise the report has the messages of the violated checks. -/
theorem judge_of_not_meets (h : ¬ outcome.Meets plan) (filename : Option Text) (scheme : Text) :
    ∃ report : Report, judge plan filename scheme outcome =
        .error (.mismatch (report.text (some scheme) filename)) ∧
      report.failures = (Check.violated plan outcome).map (Check.message plan outcome) := by
  have hfailed : ¬ (Report.compare plan outcome).passed = true :=
    fun hpassed => h (Report.passed_compare_iff.mp hpassed)
  refine ⟨Report.compare plan outcome, ?_, Report.failures_compare plan outcome⟩
  unfold judge
  rw [if_neg hfailed]

/-- An invocation that has a command comes to what the run of the command comes to. -/
theorem result_execute_of_command
    (hprepare : (harness.prepare root filename scheme fs).result = .ok plan)
    (hcommand : harness.command program adjustments plan = .ok command) :
    (harness.execute root program adjustments filename scheme fs).result =
      ((Execution.run harness.starter command).result.mapError .execution).bind
        (judge plan filename scheme) := by
  simp only [execute, hprepare, hcommand]

/-- An invocation that comes to an outcome judges it. -/
theorem result_execute (hprepare : (harness.prepare root filename scheme fs).result = .ok plan)
    (hcommand : harness.command program adjustments plan = .ok command)
    (hrun : (Execution.run harness.starter command).result = .ok outcome) :
    (harness.execute root program adjustments filename scheme fs).result =
      judge plan filename scheme outcome := by
  rw [result_execute_of_command hprepare hcommand, hrun]
  rfl

/-- **Verdict**: an invocation answers the outcome exactly if return code and
canonical outputs are the expected ones; otherwise it reports every check that
is violated, once and in order. -/
theorem execute_verdict (hprepare : (harness.prepare root filename scheme fs).result = .ok plan)
    (hcommand : harness.command program adjustments plan = .ok command)
    (hrun : (Execution.run harness.starter command).result = .ok outcome) :
    ((harness.execute root program adjustments filename scheme fs).result = .ok outcome ↔
      outcome.Meets plan) ∧
    (¬ outcome.Meets plan → ∃ report : Report,
      (harness.execute root program adjustments filename scheme fs).result =
        .error (.mismatch (report.text (some scheme) filename)) ∧
      report.failures = (Check.violated plan outcome).map (Check.message plan outcome)) := by
  rw [result_execute hprepare hcommand hrun]
  exact ⟨judge_eq_ok_iff, fun h => judge_of_not_meets h filename scheme⟩

/-- A process that ends its line in another way passes; one that also ends with
another code and writes an error fails twice. -/
theorem execute_verdict_echo :
    let harness (code : Int) (err : List UInt8) : Harness :=
      { settings := { strict := false, maxLineSize := 80, encoding := "utf-8".toList }
        escalate := false, cwd := [], ambient := []
        starter := fun _ => .ok
          { stdout := fun _ => [104, 105, 13, 10], stderr := fun _ => err, code := .valid code } }
    let root := Path.ofText "/r".toList
    let scheme := "--stdout\nhi".toList
    let plan : Scheme.Plan :=
      { rootDir := root, files := [], args := [], env := [], stdin := [], stdout := "hi\n".toList
        stderr := [], returnCode := 0, scheme := scheme }
    let outcome (code : Int) (err : Text) : Outcome :=
      { stdout := Capture.ofText "hi\r\n".toList, stderr := Capture.ofText err, returnCode := code }
    ((harness 0 []).execute root "p".toList [] none scheme ⟨[]⟩).result = .ok (outcome 0 []) ∧
    ∃ report : Report,
      ((harness 3 [33]).execute root "p".toList [] none scheme ⟨[]⟩).result =
        .error (.mismatch (report.text (some scheme) none)) ∧
      report.failures = [Check.returnCode.message plan (outcome 3 ['!']),
        Check.stderr.message plan (outcome 3 ['!'])] := by
  intro harness root scheme plan outcome
  let command : Command :=
    { program := "p".toList, args := [], cwd := root, env := [], stdin := []
      encoding := "utf-8".toList }
  have hinterpret : ∀ code err,
      (Scheme.interpret ((harness code err).rules root none) scheme).outcome = .ok plan := by
    intro code err
    change (Scheme.interpret ((harness 0 []).rules root none) scheme).outcome = .ok plan
    decide +kernel
  have hprepare : ∀ code err,
      ((harness code err).prepare root none scheme ⟨[]⟩).result = .ok plan := by
    intro code err
    simp only [prepare, hinterpret]
    rfl
  have hcommand : ∀ code err, (harness code err).command "p".toList [] plan = .ok command := by
    intro code err
    change (harness 0 []).command "p".toList [] plan = .ok command
    decide +kernel
  have hrun : (Execution.run (harness 0 []).starter command).result = .ok (outcome 0 []) := by
    decide +kernel
  have hrun' : (Execution.run (harness 3 [33]).starter command).result =
      .ok (outcome 3 ['!']) := by
    decide +kernel
  have hpass := execute_verdict (hprepare 0 []) (hcommand 0 []) hrun
  have hfail := execute_verdict (hprepare 3 [33]) (hcommand 3 [33]) hrun'
  obtain ⟨report, hresult, hfailures⟩ := hfail.2 (by unfold Outcome.Meets; decide +kernel)
  refine ⟨hpass.1.mpr (by unfold Outcome.Meets; decide +kernel), report, hresult, ?_⟩
  rw [hfailures, show Check.violated plan (outcome 3 ['!']) = [.returnCode, .stderr] by
    decide +kernel]
  rfl

end SchemeCheck.Harness

import SchemeCheck.CommandLine.Call
import SchemeCheck.Proofs.CommandLine.Request
import SchemeCheck.Proofs.Execution.Building
import SchemeCheck.Proofs.Execution.Completion
import SchemeCheck.Proofs.Fixture.Failure
import SchemeCheck.Proofs.Scheme.Overflow
import SchemeCheck.Proofs.Staging
import SchemeCheck.Proofs.Verdict

/-!
# SchemeCheck.Proofs.CommandLine.ExitCode

What the exit code of a run tells.  A program that came to an outcome was tested
(`Tested`), and then the code is that of the comparison (`code_of_tested`).  Every
stage before has failures that are handled, which end with 2, and some have
failures that nothing handles (`Unhandled`), which end with 1 as a mismatch does
(`code_of_unhandled`).  There is nothing else (`tested_or_unhandled_or_fatal`), so
the three codes can be told apart in full: `code_call`.
-/

namespace SchemeCheck

/-! ## Exit codes -/

namespace CommandLine

def crashCode : Nat := 1

def Call.code (call : Call) : Nat :=
  match call.exit with
  | .ok code => code
  | .error _ => crashCode

/-- The exit code of a run, by what the invocation came to. -/
def codeOf : Except Invocation.Failure Outcome → Nat
  | .ok _ => 0
  | .error (.mismatch _) => mismatchCode
  | .error failure => if failure.fatal?.isSome then fatalCode else crashCode

/-- The harness of a run. -/
def Surroundings.harness (surroundings : Surroundings) (settings : Settings) : Harness where
  settings := settings
  escalate := surroundings.escalate
  cwd := surroundings.cwd
  ambient := surroundings.ambient
  starter := surroundings.starter

theorem code_runScheme (surroundings : Surroundings) (settings : Settings) (program : Text)
    (scheme : Path) (fs : FileSystem) :
    (runScheme surroundings settings program scheme fs).code =
      codeOf ((surroundings.harness settings).executeFile surroundings.root program []
        scheme.text fs).result := by
  unfold runScheme Call.code Surroundings.harness
  dsimp only
  generalize (Harness.executeFile _ surroundings.root program [] scheme.text fs).result = result
  cases result with
  | ok outcome => rfl
  | error failure =>
      cases failure with
      | mismatch text => rfl
      | read cause | scheme cause | fixture cause | execution cause => cases cause <;> rfl
      | command cause => rfl

end CommandLine

namespace Harness

open CommandLine (codeOf mismatchCode fatalCode crashCode)

/-! ## What a run can come to -/

section Run

variable (harness : Harness) (root : Path) (program filename : Text) (fs : FileSystem)

/-- The program was run on the plan of the scheme file, and came to the outcome. -/
structure Tested (plan : Scheme.Plan) (outcome : Outcome) : Prop where
  prepares : ∃ scheme, harness.Prepares root filename fs scheme plan
  named : program ≠ []
  ran : (Execution.run harness.starter (harness.unadjusted program plan)).result = .ok outcome

/-- A run that ends with a failure that nothing handles. -/
inductive Unhandled : Prop
  /-- The encoding does not exist. -/
  | encoding {cause : Encoding.LookupFailure}
      (h : Scheme.load fs harness.cwd harness.settings.encoding (Path.ofText filename) =
        .error (.encoding cause))
  /-- The scheme has a return code of too many digits. -/
  | digits {scheme : Text} (hloads : harness.Loads filename fs scheme)
      (hover : Scheme.Overflows (harness.rules root (some filename)) scheme)
  /-- The files of the plan are written up to one whose name is not resolved: a null
  character or a loop of links is in the way. -/
  | unresolved {scheme : Text} {plan : Scheme.Plan} {before after : List (Text × Text)}
      {name content : Text} {places : List Place} {cause : FileSystem.Unresolved}
      (hloads : harness.Loads filename fs scheme)
      (hplan : (harness.interpreted root (some filename) scheme).outcome = .ok plan)
      (hfiles : plan.files = before ++ (name, content) :: after)
      (hbefore : (harness.written root { plan with files := before } fs).result = .ok places)
      (hname : Fixture.locate (harness.written root { plan with files := before } fs).fs
        harness.cwd plan.rootDir name = .error (.unresolved cause))
  /-- The program has no name, so there is no command. -/
  | nameless {scheme : Text} {plan : Scheme.Plan}
      (h : harness.Prepares root filename fs scheme plan) (hprogram : program = [])
  /-- The program was started, and its input or what it came to is lost on the way. -/
  | lost {scheme : Text} {plan : Scheme.Plan} {running : Execution.Running}
      {failure : Execution.Failure} (h : harness.Prepares root filename fs scheme plan)
      (hprogram : program ≠ [])
      (hstart : harness.starter (.ofCommand (harness.unadjusted program plan)) = .ok running)
      (hlost : (Execution.run harness.starter (harness.unadjusted program plan)).result =
        .error failure)

end Run

variable {harness : Harness} {root : Path} {program filename scheme : Text} {fs : FileSystem}
  {plan : Scheme.Plan}

/-! ## The code of each -/

/-- A program that was tested has the code of its comparison. -/
theorem code_of_tested {outcome : Outcome}
    (h : harness.Tested root program filename fs plan outcome) :
    codeOf (harness.executeFile root program [] filename fs).result =
      if (Report.compare plan outcome).passed then 0 else mismatchCode := by
  obtain ⟨⟨scheme, hloads, hprepare⟩, hnamed, hran⟩ := h
  have hcommand := command_of_ne_nil hnamed harness plan
  rw [executeFile_of_loads hloads, result_execute hprepare hcommand hran, judge]
  split <;> rfl

/-- What nothing handles ends with the code of a mismatch. -/
theorem code_of_unhandled (hrecorded : harness.escalate = false)
    (h : harness.Unhandled root program filename fs) :
    codeOf (harness.executeFile root program [] filename fs).result = crashCode := by
  cases h with
  | encoding h =>
      unfold executeFile
      rw [h]
      rfl
  | digits hloads hover =>
      obtain ⟨count, -, houtcome⟩ := Scheme.outcome_of_overflows hrecorded hover
      rw [executeFile_of_loads hloads, execute_of_rejected houtcome]
      rfl
  | unresolved hloads hplan hfiles hbefore hname =>
      have hwritten := Fixture.materialize_unresolved_iff.mpr ⟨_, _, _, _, _, hfiles, hbefore, hname⟩
      rw [executeFile_of_loads hloads, execute_of_unwritten hplan hwritten]
      rfl
  | nameless h hprogram =>
      obtain ⟨hloads, hprepare⟩ := h
      rw [executeFile_of_loads hloads]
      simp only [execute, hprepare, command_eq, if_pos hprogram]
      rfl
  | @lost scheme plan running failure h hprogram hstart hlost =>
      obtain ⟨hloads, hprepare⟩ := h
      have hcommand := command_of_ne_nil hprogram harness plan
      rw [executeFile_of_loads hloads, result_execute_of_command hprepare hcommand, hlost]
      have hother := Execution.ne_start_of_started hstart hlost
      cases failure with
      | start program cwd cause => exact absurd rfl (hother program cwd cause)
      | foreign _ | encoding _ | encode _ | decode _ | outcome _ => rfl

/-! ## There is nothing else -/

/-- A scheme file that is not read is fatal, unless its encoding does not exist. -/
theorem unhandled_or_fatal_of_unread {cause : Scheme.ReadFailure}
    (h : Scheme.load fs harness.cwd harness.settings.encoding (Path.ofText filename) =
      .error cause) :
    harness.Unhandled root program filename fs ∨
      codeOf (harness.executeFile root program [] filename fs).result = fatalCode := by
  cases cause with
  | encoding cause => exact .inl (.encoding h)
  | fault path fault =>
      refine .inr ?_
      unfold executeFile
      rw [h]
      rfl

/-- A scheme that is rejected is fatal, unless it overflows. -/
theorem unhandled_or_fatal_of_rejected (hrecorded : harness.escalate = false)
    (hloads : harness.Loads filename fs scheme) {cause : Scheme.Failure}
    (h : (harness.interpreted root (some filename) scheme).outcome = .error cause) :
    harness.Unhandled root program filename fs ∨
      codeOf (harness.executeFile root program [] filename fs).result = fatalCode := by
  by_cases hover : Scheme.Overflows (harness.rules root (some filename)) scheme
  · exact .inl (.digits hloads hover)
  · refine .inr ?_
    obtain ⟨plan, hplan, -⟩ | ⟨fault, hfault⟩ :=
      Scheme.reported_of_not_overflows hrecorded hover
    · cases h.symm.trans hplan
    · rw [executeFile_of_loads hloads, execute_of_rejected hfault]
      rfl

/-- Files that are not written are fatal, unless a name is not resolved. -/
theorem unhandled_or_fatal_of_unwritten (hloads : harness.Loads filename fs scheme)
    (hplan : (harness.interpreted root (some filename) scheme).outcome = .ok plan)
    {failure : Fixture.Failure}
    (h : (harness.written root plan fs).result = .error failure) :
    harness.Unhandled root program filename fs ∨
      codeOf (harness.executeFile root program [] filename fs).result = fatalCode := by
  cases failure with
  | encoding cause =>
      -- The scheme was read in the same encoding.
      obtain ⟨-, bytes, found, -, hfound, -⟩ := Scheme.load_eq_ok_iff.mp hloads
      cases hfound.symm.trans (Fixture.lookup_of_materialize h)
  | unresolved cause =>
      obtain ⟨before, name, content, after, places, hfiles, hbefore, hname⟩ :=
        Fixture.materialize_unresolved_iff.mp h
      exact .inl (.unresolved hloads hplan hfiles hbefore hname)
  | fault fault =>
      refine .inr ?_
      rw [executeFile_of_loads hloads, execute_of_unwritten hplan h]
      rfl

/-- A run without an outcome is fatal, unless the program was started. -/
theorem unhandled_or_fatal_of_unrun
    (hstarter : ∀ start kind, harness.starter start ≠ .error (.foreign kind))
    (hprepares : harness.Prepares root filename fs scheme plan) (hprogram : program ≠ [])
    {failure : Execution.Failure}
    (h : (Execution.run harness.starter (harness.unadjusted program plan)).result =
      .error failure) :
    harness.Unhandled root program filename fs ∨
      codeOf (harness.executeFile root program [] filename fs).result = fatalCode := by
  cases hstart : harness.starter (.ofCommand (harness.unadjusted program plan)) with
  | ok running => exact .inl (.lost hprepares hprogram hstart h)
  | error refused =>
      refine .inr ?_
      have hcommand := command_of_ne_nil hprogram harness plan
      rw [executeFile_of_loads hprepares.1, result_execute_of_command hprepares.2 hcommand]
      simp only [Execution.run, hstart]
      cases refused with
      | foreign kind => exact absurd hstart (hstarter _ kind)
      | os _ | value _ => rfl

/-- **A run is tested, unhandled or fatal.** -/
theorem tested_or_unhandled_or_fatal (hrecorded : harness.escalate = false)
    (hstarter : ∀ start kind, harness.starter start ≠ .error (.foreign kind)) (root : Path)
    (program filename : Text) (fs : FileSystem) :
    (∃ plan outcome, harness.Tested root program filename fs plan outcome) ∨
      harness.Unhandled root program filename fs ∨
      codeOf (harness.executeFile root program [] filename fs).result = fatalCode := by
  cases hload : Scheme.load fs harness.cwd harness.settings.encoding (Path.ofText filename) with
  | error cause => exact .inr (unhandled_or_fatal_of_unread hload)
  | ok scheme =>
      cases hplan : (harness.interpreted root (some filename) scheme).outcome with
      | error cause => exact .inr (unhandled_or_fatal_of_rejected hrecorded hload hplan)
      | ok plan =>
          cases hwritten : (harness.written root plan fs).result with
          | error failure => exact .inr (unhandled_or_fatal_of_unwritten hload hplan hwritten)
          | ok places =>
              have hprepares : harness.Prepares root filename fs scheme plan :=
                ⟨hload, prepare_of_written hplan hwritten⟩
              by_cases hprogram : program = []
              · exact .inr (.inl (.nameless hprepares hprogram))
              · cases hrun : (Execution.run harness.starter
                    (harness.unadjusted program plan)).result with
                | ok outcome => exact .inl ⟨plan, outcome, ⟨scheme, hprepares⟩, hprogram, hrun⟩
                | error failure =>
                    exact .inr (unhandled_or_fatal_of_unrun hstarter hprepares hprogram hrun)

/-! ## The three codes -/

section Codes

variable (hrecorded : harness.escalate = false)
  (hstarter : ∀ start kind, harness.starter start ≠ .error (.foreign kind))
include hrecorded hstarter

/-- The code of success is that of a program that passed. -/
theorem codeOf_eq_zero_iff :
    codeOf (harness.executeFile root program [] filename fs).result = 0 ↔
      ∃ plan outcome, harness.Tested root program filename fs plan outcome ∧
        (Report.compare plan outcome).passed = true := by
  constructor
  · intro hcode
    obtain ⟨plan, outcome, htested⟩ | hunhandled | hfatal :=
      tested_or_unhandled_or_fatal hrecorded hstarter root program filename fs
    · refine ⟨plan, outcome, htested, ?_⟩
      rw [code_of_tested htested] at hcode
      by_contra hfailed
      rw [if_neg hfailed] at hcode
      cases hcode
    · cases hcode.symm.trans (code_of_unhandled hrecorded hunhandled)
    · cases hcode.symm.trans hfatal
  · rintro ⟨plan, outcome, htested, hpassed⟩
    rw [code_of_tested htested, if_pos hpassed]

/-- The code of a mismatch is that of a program that did not pass, and of what nothing
handles. -/
theorem codeOf_eq_one_iff :
    codeOf (harness.executeFile root program [] filename fs).result = 1 ↔
      (∃ plan outcome, harness.Tested root program filename fs plan outcome ∧
        (Report.compare plan outcome).passed = false) ∨
      harness.Unhandled root program filename fs := by
  constructor
  · intro hcode
    obtain ⟨plan, outcome, htested⟩ | hunhandled | hfatal :=
      tested_or_unhandled_or_fatal hrecorded hstarter root program filename fs
    · refine .inl ⟨plan, outcome, htested, ?_⟩
      rw [code_of_tested htested] at hcode
      by_contra hpassed
      rw [if_pos (eq_true_of_ne_false hpassed)] at hcode
      cases hcode
    · exact .inr hunhandled
    · cases hcode.symm.trans hfatal
  · rintro (⟨plan, outcome, htested, hfailed⟩ | hunhandled)
    · rw [code_of_tested htested, hfailed]
      rfl
    · exact code_of_unhandled hrecorded hunhandled

/-- The code of a fatal failure is that of every other run. -/
theorem codeOf_eq_two_iff :
    codeOf (harness.executeFile root program [] filename fs).result = 2 ↔
      (¬ ∃ plan outcome, harness.Tested root program filename fs plan outcome) ∧
        ¬ harness.Unhandled root program filename fs := by
  constructor
  · intro hcode
    constructor
    · rintro ⟨plan, outcome, htested⟩
      rw [code_of_tested htested] at hcode
      split at hcode <;> cases hcode
    · intro hunhandled
      cases hcode.symm.trans (code_of_unhandled hrecorded hunhandled)
  · rintro ⟨hnone, hhandled⟩
    obtain htested | hunhandled | hfatal :=
      tested_or_unhandled_or_fatal hrecorded hstarter root program filename fs
    · exact absurd htested hnone
    · exact absurd hunhandled hhandled
    · exact hfatal

end Codes

end Harness

namespace CommandLine

variable {surroundings : Surroundings} {words : List Text} {fs : FileSystem} {strict : Bool}
  {program : Text} {path : Path} {settings : Settings}

/-- A call that asks for a run has the code of the invocation. -/
theorem code_call_eq (hquestion : Question.ofAmbient? surroundings.ambient = none)
    (hread : read fs surroundings.cwd words = .ok (.run strict program path))
    (hsettings : Settings.resolve surroundings.ambient [] = .valid settings) :
    (call surroundings words fs).code =
      codeOf ((surroundings.harness { settings with strict := strict || settings.strict }).executeFile
        surroundings.root program [] path.text fs).result := by
  simp only [call, hquestion, hread, serve, hsettings]
  exact code_runScheme surroundings _ program path fs

end CommandLine

end SchemeCheck

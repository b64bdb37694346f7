import SchemeCheck.Fixture
import SchemeCheck.Execution.Run
import SchemeCheck.Scheme.File
import SchemeCheck.Scheme.Interpreter
import SchemeCheck.Settings

/-!
# SchemeCheck.Invocation

One invocation: a scheme is interpreted against a fresh fixture root, its files
are written, the program is run in the root, and the outcome is compared with
the plan.  An invocation is on record with everything it did, also where it
fails: a stage that fails leaves what the stages before it have done.
-/

namespace SchemeCheck

/-- What invocations share. -/
structure Harness where
  settings : Settings
  /-- Whether a warning ends an invocation. -/
  escalate : Bool
  /-- The current directory. -/
  cwd : Place
  /-- The ambient environment. -/
  ambient : Table Text Text
  starter : Execution.Starter

namespace Invocation

/-- Why an invocation has no result. -/
inductive Failure where
  | read (cause : Scheme.ReadFailure)
  | scheme (cause : Scheme.Failure)
  | fixture (cause : Fixture.Failure)
  | command (cause : Command.Failure)
  | execution (cause : Execution.Failure)
  /-- The outcome is not what the plan expects. -/
  | mismatch (text : Capture)

/-- The message of a failure that is fatal for the invocation and about the
scheme, its files or the start of the program. -/
def Failure.fatal? : Failure → Option Text
  | read (.fault path fault) => some (fault.text path)
  | scheme (.fault fault) => some fault.text
  | fixture (.fault fault) => some fault.message
  | execution (.start program cwd cause) => some (Execution.startMessage program cwd cause)
  | _ => none

/-- The message of a failure that is reported without further details: of a
mismatch and of what is fatal. -/
def Failure.reported? : Failure → Option Capture
  | mismatch text => some text
  | failure => failure.fatal?.map Capture.ofText

end Invocation

/-- An invocation, as far as it came. -/
structure Invocation (α : Type) where
  /-- The file system that it leaves. -/
  fs : FileSystem
  /-- The fixture root, if it came to asking for one. -/
  root : Option Path := none
  warnings : List Scheme.Warning := []
  launches : List Execution.Launch := []
  /-- The file system in which the program was launched, if it came to that. -/
  scene : Option FileSystem := none
  result : Except Invocation.Failure α

namespace Harness

open Invocation (Failure)

/-- How the harness has schemes interpreted. -/
def rules (harness : Harness) (root : Path) (filename : Option Text) : Scheme.Rules where
  root := root.text
  strict := harness.settings.strict
  maxLineSize := some harness.settings.maxLineSize
  filename := filename
  escalate := harness.escalate

/-- Make the directory of a fresh fixture root. -/
def allocate (harness : Harness) (root : Path) (fs : FileSystem) : FileSystem :=
  (fs.makeDirectories (fs.resolve harness.cwd root)).1

/-- Allocate the fixture root, interpret a scheme and write its files. -/
def prepare (harness : Harness) (root : Path) (filename : Option Text) (scheme : Text)
    (fs : FileSystem) : Invocation Scheme.Plan :=
  let fs := harness.allocate root fs
  let progress := Scheme.interpret (harness.rules root filename) scheme
  match progress.outcome with
  | .error cause =>
    { fs := fs, root := some root, warnings := progress.warnings,
      result := .error (.scheme cause) }
  | .ok plan =>
    let written :=
      Fixture.materialize harness.cwd plan.rootDir harness.settings.encoding plan.files fs
    { fs := written.fs
      root := some root
      warnings := progress.warnings
      result := (written.result.mapError .fixture).map fun _ => plan }

/-- The command that runs a program on a plan. -/
def command (harness : Harness) (program : Text) (adjustments : List Command.Adjustment)
    (plan : Scheme.Plan) : Except Command.Failure Command :=
  let built := Command.forPlan (Path.ofNames harness.cwd) harness.ambient
    harness.settings.encoding program plan
  match built with
  | .invalid problems => .error (.invalid problems)
  | .valid command => command.adjustAll adjustments

/-- The result of comparing an outcome with its plan. -/
def judge (plan : Scheme.Plan) (filename : Option Text) (scheme : Text) (outcome : Outcome) :
    Except Failure Outcome :=
  let report := Report.compare plan outcome
  if report.passed then .ok outcome
  else .error (.mismatch (report.text (some scheme) filename))

/-- Run a program on a scheme. -/
def execute (harness : Harness) (root : Path) (program : Text)
    (adjustments : List Command.Adjustment) (filename : Option Text) (scheme : Text)
    (fs : FileSystem) : Invocation Outcome :=
  let prepared := harness.prepare root filename scheme fs
  match prepared.result with
  | .error failure => { prepared with result := .error failure }
  | .ok plan =>
    match harness.command program adjustments plan with
    | .error cause => { prepared with result := .error (.command cause) }
    | .ok command =>
      let run := Execution.run harness.starter command
      { prepared with
        launches := [run.launch]
        scene := some prepared.fs
        result := (run.result.mapError .execution).bind (judge plan filename scheme) }

/-- Run a program on a scheme file; `filename` names it in diagnostics. -/
def executeFile (harness : Harness) (root : Path) (program : Text)
    (adjustments : List Command.Adjustment) (filename : Text) (fs : FileSystem) :
    Invocation Outcome :=
  match Scheme.load fs harness.cwd harness.settings.encoding (Path.ofText filename) with
  | .error cause => { fs := fs, result := .error (.read cause) }
  | .ok scheme => harness.execute root program adjustments (some filename) scheme fs

end Harness

end SchemeCheck

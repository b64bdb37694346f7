import SchemeCheck.CommandLine.Completion
import SchemeCheck.CommandLine.Printed
import SchemeCheck.CommandLine.Request
import SchemeCheck.Invocation

/-!
# SchemeCheck.CommandLine.Call

Calls of the command line: what is printed and done, and how a call ends.
-/

namespace SchemeCheck.CommandLine

/-- Where a call is made. -/
structure Surroundings where
  /-- The current directory. -/
  cwd : Place
  ambient : Table Text Text
  starter : Execution.Starter
  /-- Whether a warning ends an invocation. -/
  escalate : Bool
  /-- The temporary directory that serves as fixture root. -/
  root : Path

/-- A failure that no command handles. -/
inductive Crash where
  /-- The settings are not accepted. -/
  | settings (problems : List Record.Problem)
  | invocation (failure : Invocation.Failure)
  /-- A shell that asks for completions gets no answer. -/
  | completion (fault : CompletionFault)

/-- A call, with what it printed and did. -/
structure Call where
  fs : FileSystem
  stdout : Capture := []
  stderr : Capture := []
  warnings : List Scheme.Warning := []
  launches : List Execution.Launch := []
  /-- The exit code, or the failure that ended the call. -/
  exit : Except Crash Nat

/-! ## Exit codes -/

def mismatchCode : Nat := 1

def fatalCode : Nat := 2

/-- A call that a failure ended: what is printed, and the exit code if the
failure is one that commands handle. -/
def failed (failure : Invocation.Failure) : Capture × Except Crash Nat :=
  match failure with
  | .mismatch text => (text ++ Capture.ofText ['\n'], .ok mismatchCode)
  | failure =>
    match failure.fatal? with
    | some text => (Capture.ofText (text ++ ['\n']), .ok fatalCode)
    | none => ([], .error (.invocation failure))

/-! ## Commands -/

/-- Print the plan of a scheme file. -/
def printPlan (surroundings : Surroundings) (settings : Settings) (root : Text)
    (format : Scheme.Format) (scheme : Path) (fs : FileSystem) : Call :=
  match Scheme.load fs surroundings.cwd settings.encoding scheme with
  | .error cause =>
    let (stderr, exit) := failed (.read cause)
    { fs := fs, stderr := stderr, exit := exit }
  | .ok text =>
    let progress := Scheme.interpret
      { root := root
        strict := settings.strict
        maxLineSize := some settings.maxLineSize
        filename := some scheme.text
        escalate := surroundings.escalate }
      text
    match progress.outcome with
    | .error cause =>
      let (stderr, exit) := failed (.scheme cause)
      { fs := fs, stderr := stderr, warnings := progress.warnings, exit := exit }
    | .ok plan =>
      { fs := fs, stdout := Capture.ofText (plan.listing format), warnings := progress.warnings, exit := .ok 0 }

/-- Run a program on a scheme file. -/
def runScheme (surroundings : Surroundings) (settings : Settings) (program : Text) (scheme : Path)
    (fs : FileSystem) : Call :=
  let harness : Harness :=
    { settings := settings
      escalate := surroundings.escalate
      cwd := surroundings.cwd
      ambient := surroundings.ambient
      starter := surroundings.starter }
  let invocation := harness.executeFile surroundings.root program [] scheme.text fs
  let (stdout, stderr, exit) :=
    match invocation.result with
    | .ok _ => (Capture.ofText ("PASS ".toList ++ scheme.text ++ ['\n']), [], .ok 0)
    | .error failure => ([], failed failure)
  { fs := invocation.fs
    stdout := stdout
    stderr := stderr
    warnings := invocation.warnings
    launches := invocation.launches
    exit := exit }

/-- Do what is asked for. -/
def serve (surroundings : Surroundings) (fs : FileSystem) : Request → Call
  | .schema =>
    { fs := fs, stdout := Capture.ofText (Scheme.Plan.schema.written ++ ['\n']), exit := .ok 0 }
  | .parse root format scheme =>
    match Settings.resolve surroundings.ambient [] with
    | .invalid problems => { fs := fs, exit := .error (.settings problems) }
    | .valid settings => printPlan surroundings settings root format scheme fs
  | .run strict program scheme =>
    match Settings.resolve surroundings.ambient [] with
    | .invalid problems => { fs := fs, exit := .error (.settings problems) }
    | .valid settings =>
      let settings := { settings with strict := strict || settings.strict }
      runScheme surroundings settings program scheme fs

/-- The exit code of a question by a shell that is not understood. -/
def puzzledCode : Nat := 1

/-- Answer a shell that asks for completions. -/
def answerShell (ambient : Table Text Text) (question : Question) (fs : FileSystem) : Call :=
  match question.answer ambient with
  | .ok (some text) => { fs := fs, stdout := Capture.ofText text, exit := .ok 0 }
  | .ok none => { fs := fs, exit := .ok puzzledCode }
  | .error fault => { fs := fs, exit := .error (.completion fault) }

/-- Call the command line with words, which count only where no shell asks for
completions. -/
def call (surroundings : Surroundings) (words : List Text) (fs : FileSystem) : Call :=
  match Question.ofAmbient? surroundings.ambient with
  | some question => answerShell surroundings.ambient question fs
  | none =>
    match read fs surroundings.cwd words with
    | .ok request => serve surroundings fs request
    | .error (.help text) => { fs := fs, stdout := Capture.ofText text.toList, exit := .ok 0 }
    | .error refusal => { fs := fs, stderr := Capture.ofText refusal.text, exit := .ok fatalCode }

end SchemeCheck.CommandLine

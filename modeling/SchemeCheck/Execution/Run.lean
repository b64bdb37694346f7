import SchemeCheck.Encoding.Name
import SchemeCheck.FileSystem.Basic
import SchemeCheck.Execution.Command
import SchemeCheck.Report

/-!
# SchemeCheck.Execution.Run

Running a command.  What the operating system does is hidden behind a starter,
which is asked to start a process and answers with a failure or a running
process.  Every start is on record, with what became of the process.
-/

namespace SchemeCheck.Execution

/-- What a starter is asked for. -/
structure Start where
  argv : List Text
  /-- The program, if it is not the first of the arguments. -/
  executable : Option Text
  cwd : Path
  env : Table Text Text
  deriving DecidableEq

/-- The start of a program under the given arguments; there must be some. -/
def Start.of? (program : Text) (argv : List Text) (env : Table Text Text) (cwd : Path) :
    Option Start :=
  argv.head?.map fun name =>
    { argv := argv
      executable := if program = name then none else some program
      cwd := cwd
      env := env }

def Start.ofCommand (command : Command) : Start where
  argv := command.argv
  executable := none
  cwd := command.cwd
  env := command.env

/-- Why a process is not started. -/
inductive StartFailure where
  | os (error : OsError)
  /-- The values are unusable. -/
  | value (message : Text)
  /-- A failure of another kind, which is not this library's to report. -/
  | foreign (kind : Text)
  deriving DecidableEq

/-- A running process: what it writes when it is fed, and the code with which
it ends. -/
structure Running where
  stdout : List UInt8 → List UInt8
  stderr : List UInt8 → List UInt8
  /-- The code, as far as it is one. -/
  code : Record.Checked Int

/-- A way to start processes. -/
abbrev Starter := Start → Except StartFailure Running

/-- A start and what became of it. -/
structure Launch where
  start : Start
  /-- Whether a process was started. -/
  started : Bool
  /-- What it was fed. -/
  fed : Option (List UInt8)
  /-- Whether its end was waited for. -/
  waited : Bool
  deriving DecidableEq

/-- Why a run has no outcome. -/
inductive Failure where
  /-- The program cannot be started. -/
  | start (program : Text) (cwd : Path) (cause : Text)
  | foreign (kind : Text)
  | encoding (cause : Encoding.LookupFailure)
  | encode (cause : Encoding.EncodeFailure)
  | decode (cause : Encoding.DecodeFailure)
  /-- What the process came to is no outcome. -/
  | outcome (problems : List Record.Problem)
  deriving DecidableEq

/-- The message about a program that cannot be started. -/
def startMessage (program : Text) (cwd : Path) (cause : Text) : Text :=
  "Failed to start ".toList ++ Text.quoted program ++ " in ".toList ++ cwd.text ++
    ": ".toList ++ cause

def StartFailure.toFailure (command : Command) : StartFailure → Failure
  | os error => .start command.program command.cwd error.message
  | value message => .start command.program command.cwd message
  | foreign kind => .foreign kind

/-- A run: what was started and what came of it. -/
structure Run where
  launch : Launch
  result : Except Failure Outcome

/-- The bytes of a command's standard input. -/
def inputOf (command : Command) : Except Failure (Encoding × List UInt8) := do
  let encoding ← (Encoding.lookup command.encoding).mapError .encoding
  let bytes ← (encoding.encode command.stdin).mapError .encode
  return (encoding, bytes)

/-- The outcome of a process that was fed and has ended. -/
def outcomeOf (running : Running) (encoding : Encoding) (input : List UInt8) :
    Except Failure Outcome := do
  let stdout ← (encoding.capture (running.stdout input)).mapError .decode
  let stderr ← (encoding.capture (running.stderr input)).mapError .decode
  match running.code.inside (.name "return_code".toList) with
  | .valid code => return { stdout := stdout, stderr := stderr, returnCode := code }
  | .invalid problems => throw (.outcome problems)

/-- Run a command to its end. -/
def run (starter : Starter) (command : Command) : Run :=
  let start := Start.ofCommand command
  let launch : Launch := { start := start, started := false, fed := none, waited := false }
  match starter start with
  | .error failure => { launch := launch, result := .error (failure.toFailure command) }
  | .ok running =>
    match inputOf command with
    | .error failure =>
      { launch := { launch with started := true }, result := .error failure }
    | .ok (encoding, input) =>
      { launch := { launch with started := true, fed := some input, waited := true }
        result := outcomeOf running encoding input }

end SchemeCheck.Execution

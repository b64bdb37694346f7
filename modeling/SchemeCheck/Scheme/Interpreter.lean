import SchemeCheck.Placeholder
import SchemeCheck.Scheme.Issue
import SchemeCheck.Scheme.Plan
import SchemeCheck.Text.Lines

/-!
# SchemeCheck.Scheme.Interpreter

Interpreting a scheme in a single pass.  The state holds the open block and
everything that the lines so far have declared; `feed` consumes one line.  A
file block is stored when the next block is opened or the scheme ends; scalar
directives and unknown ones leave the open block open.

A step that fails leaves the state as it was: `feed` and its parts answer the
next state or the failure, never something in between.
-/

namespace SchemeCheck.Scheme

/-- How a scheme is to be interpreted. -/
structure Rules where
  /-- The text that stands for the fixture root. -/
  root : Text
  /-- Whether remarks are made. -/
  strict : Bool := false
  /-- How many characters a line may have, if there is a limit. -/
  maxLineSize : Option Int := some 1048576
  /-- The name of the scheme file in diagnostics. -/
  filename : Option Text := none
  /-- Whether a remark ends the interpretation. -/
  escalate : Bool := false

/-- Why interpretation ends without a plan. -/
inductive Failure where
  | fault (fault : LineFault)
  /-- A remark where remarks are errors. -/
  | escalated (warning : Warning)
  /-- A return code with more digits than a number may have. -/
  | tooManyDigits (count : Nat)
  deriving DecidableEq

def maxDigits : Nat := 4300

/-- The message about a number with too many digits. -/
def Failure.digitsMessage (count : Nat) : Text :=
  "Exceeds the limit (".toList ++ Text.ofNat maxDigits ++
    " digits) for integer string conversion: value has ".toList ++ Text.ofNat count ++
    " digits; use sys.set_int_max_str_digits() to increase the limit".toList

/-- The warnings of a step and what it comes to. -/
structure Noted (α : Type) where
  warnings : List Warning
  result : Except Failure α

namespace Noted

/-- A step that comes to `a` without a warning. -/
def pure {α : Type} (a : α) : Noted α :=
  { warnings := [], result := .ok a }

/-- A step that fails without a warning. -/
def fail {α : Type} (failure : Failure) : Noted α :=
  { warnings := [], result := .error failure }

/-- One step after another. -/
def bind {α β : Type} (first : Noted α) (next : α → Noted β) : Noted β :=
  match first.result with
  | .error failure => { warnings := first.warnings, result := .error failure }
  | .ok a =>
    { warnings := first.warnings ++ (next a).warnings, result := (next a).result }

instance : Monad Noted where
  pure := Noted.pure
  bind := Noted.bind

end Noted

/-- What the lines so far have declared, and the block they left open. -/
structure State where
  block : Block := .none
  files : Table Text Text := []
  args : List Text := []
  env : List Text := []
  stdin : List Text := []
  stdout : List Text := []
  stderr : List Text := []
  returnCode : Int := 0
  /-- The line of the last return code. -/
  returnCodeLine : Option Int := none
  /-- The name of the last file block. -/
  pendingFile : Text := []
  /-- The line that opened it. -/
  pendingLine : Int := 0
  /-- Its lines, as long as they are not stored. -/
  pendingContent : List Text := []
  deriving DecidableEq

/-- Make a remark: nothing without strict mode, a warning in it, a failure
where remarks are errors. -/
def remark (rules : Rules) (remark : Remark) (lineNum : Int) : Noted Unit :=
  let warning : Warning := { remark := remark, lineNum := lineNum, filename := rules.filename }
  if !rules.strict then Noted.pure ()
  else if rules.escalate then Noted.fail (.escalated warning)
  else { warnings := [warning], result := .ok () }

/-- Store the open file block, if a file block is open. -/
def State.flushFile (rules : Rules) (state : State) : Noted State :=
  if state.block ≠ .file then Noted.pure state
  else do
    if state.files.has state.pendingFile then
      remark rules (.repeatedFile state.pendingFile) state.pendingLine
    Noted.pure { state with
      files := state.files.put state.pendingFile state.pendingContent.flatten
      pendingContent := [] }

/-- Close the open block and open another one. -/
def State.openBlock (rules : Rules) (block : Block) (state : State) : Noted State := do
  let state ← state.flushFile rules
  Noted.pure { state with block := block }

/-- Open the block of the file with the given name. -/
def State.openFile (rules : Rules) (value : Text) (lineNum : Int) (state : State) : Noted State := do
  let state ← state.openBlock rules .file
  Noted.pure { state with pendingFile := Text.trim value, pendingLine := lineNum }

/-- Read an integer: digits with an optional sign. -/
def readInteger? (text : Text) : Option (Bool × Text) :=
  let (negative, digits) : Bool × Text :=
    match text with
    | '-' :: rest => (true, rest)
    | '+' :: rest => (false, rest)
    | _ => (false, text)
  if !digits.isEmpty && digits.all Text.isDigit then some (negative, digits) else none

def State.setReturnCode (rules : Rules) (value : Text) (lineNum : Int) (state : State) :
    Noted State :=
  let text := Text.trim value
  match readInteger? text with
  | none =>
    Noted.fail (.fault
      { fault := .returnCode text
        line := Directive.returnCode.mark ++ value
        lineNum := lineNum
        filename := rules.filename
        block := some state.block })
  | some (negative, digits) => do
    if state.returnCodeLine.isSome then
      remark rules .repeatedReturnCode lineNum
    if maxDigits < digits.length then
      Noted.fail (.tooManyDigits digits.length)
    else
      let magnitude : Int := Text.digitsValue digits
      Noted.pure { state with
        returnCode := if negative then -magnitude else magnitude
        returnCodeLine := some lineNum }

def State.addArg (rules : Rules) (value : Text) (state : State) : Noted State :=
  Noted.pure
    { state with args := state.args ++ [Placeholder.substitute rules.root (Text.trim value)] }

def State.addEnv (rules : Rules) (value : Text) (lineNum : Int) (state : State) : Noted State :=
  let entry := Placeholder.substitute rules.root (Text.trim value)
  if isEnvEntry entry then Noted.pure { state with env := state.env ++ [entry] }
  else
    Noted.fail (.fault
      { fault := .envEntry entry
        line := Directive.env.mark ++ value
        lineNum := lineNum
        filename := rules.filename
        block := some state.block })

/-- Give a payload line to the open block. -/
def State.take (rules : Rules) (line : Text) (state : State) : State :=
  match state.block with
  | .none => state
  | .stdin => { state with stdin := state.stdin ++ [line] }
  | .stdout => { state with stdout := state.stdout ++ [Placeholder.substitute rules.root line] }
  | .stderr => { state with stderr := state.stderr ++ [Placeholder.substitute rules.root line] }
  | .file =>
    { state with
      pendingContent := state.pendingContent ++ [Placeholder.substitute rules.root line] }

/-- Follow a directive. -/
def State.follow (rules : Rules) (directive : Directive) (value : Text) (lineNum : Int)
    (state : State) : Noted State :=
  match directive with
  | .stderr => state.openBlock rules .stderr
  | .stdout => state.openBlock rules .stdout
  | .stdin => state.openBlock rules .stdin
  | .file => state.openFile rules value lineNum
  | .returnCode => state.setReturnCode rules value lineNum
  | .arg => state.addArg rules value
  | .env => state.addEnv rules value lineNum

/-- Consume one line. -/
def State.feed (rules : Rules) (line : Text) (lineNum : Int) (state : State) : Noted State :=
  match classify line with
  | .directive directive value => state.follow rules directive value lineNum
  | .unknown => do
    remark rules (.unknownDirective (Text.trim line)) lineNum
    Noted.pure state
  | .payload => Noted.pure (state.take rules line)

/-- How far interpretation came: the state it reached, the warnings on the way
and the outcome. -/
structure Progress (α : Type) where
  state : State
  warnings : List Warning
  outcome : Except Failure α

/-- Make a step from a state; a failed step stays there. -/
def State.advance (state : State) (warnings : List Warning) (step : Noted State) : Progress Unit :=
  match step.result with
  | .ok next => { state := next, warnings := warnings ++ step.warnings, outcome := .ok () }
  | .error failure =>
    { state := state, warnings := warnings ++ step.warnings, outcome := .error failure }

/-- Consume lines from the given line number on, up to the first that fails. -/
def feedFrom (rules : Rules) (lineNum : Int) : List Text → Progress Unit → Progress Unit
  | [], progress => progress
  | line :: rest, progress =>
    match progress.outcome with
    | .error _ => progress
    | .ok () =>
      feedFrom rules (lineNum + 1) rest
        (progress.state.advance progress.warnings (progress.state.feed rules line lineNum))

/-- The plan that a state describes. -/
def State.plan (rules : Rules) (scheme : Text) (state : State) : Plan where
  rootDir := Path.ofText rules.root
  files := state.files
  args := state.args
  env := state.env
  stdin := state.stdin.flatten
  stdout := state.stdout.flatten
  stderr := state.stderr.flatten
  returnCode := state.returnCode
  scheme := scheme

/-- How many characters of an overlong line are shown. -/
def shownLineSize : Nat := 80

/-- The fault of the first line that is longer than `limit`, if one is. -/
def overlongFault? (limit : Int) (filename : Option Text) (text : Text) : Option LineFault :=
  (Text.firstOverlong? limit (Text.lineBodies text)).map fun (line, n) =>
    { fault := .overlong limit
      line := line.take shownLineSize
      lineNum := n
      filename := filename
      block := none }

/-- The lines of a scheme, or the fault of the first that is too long. -/
def linesWithin (limit : Option Int) (filename : Option Text) (text : Text) :
    Except LineFault (List Text) :=
  match limit.bind fun limit => overlongFault? limit filename text with
  | some fault => .error fault
  | none => .ok (Text.lines text)

/-- Interpret a scheme from a clean state.  No line is consumed if one is too
long; a file block at the end is stored. -/
def interpret (rules : Rules) (scheme : Text) : Progress Plan :=
  match linesWithin rules.maxLineSize rules.filename scheme with
  | .error fault => { state := {}, warnings := [], outcome := .error (.fault fault) }
  | .ok lines =>
    let fed := feedFrom rules 0 lines { state := {}, warnings := [], outcome := .ok () }
    match fed.outcome with
    | .error failure => { fed with outcome := .error failure }
    | .ok () =>
      let ended := fed.state.advance fed.warnings (fed.state.flushFile rules)
      { ended with outcome := ended.outcome.map fun () => ended.state.plan rules scheme }

end SchemeCheck.Scheme

import SchemeCheck.Scheme.Interpreter

/-!
# SchemeCheck.Scheme.Method

The interpreter as an object that is kept: its methods, each as the checks it
makes and the fields it assigns, one after another.  A method that fails leaves
behind what it had assigned by then; so whether a failed method has changed
anything is a question about the order of its checks and assignments, and not
settled by its type.

`parse` starts from a clean state, whatever the calls before it have left.  The
methods may be called in any order, with remarks being failures at some times
and not at others; `State.after` is the state that such a history leaves.
-/

namespace SchemeCheck.Scheme

/-- A method: the state it leaves, its warnings and what it comes to.  The state
is left where the method fails, too. -/
def Method (α : Type) := State → Progress α

/-- What was reached after some warnings. -/
def Progress.after {α : Type} (warnings : List Warning) (progress : Progress α) : Progress α :=
  { progress with warnings := warnings ++ progress.warnings }

namespace Method

/-! ## Sequences -/

/-- One method after another.  Where the first one fails, its state stays. -/
def bind {α β : Type} (first : Method α) (next : α → Method β) : Method β := fun state =>
  let begun := first state
  match begun.outcome with
  | .error failure => { begun with outcome := .error failure }
  | .ok a => (next a begun.state).after begun.warnings

/-- The method that does nothing and answers `a`. -/
def pure {α : Type} (a : α) : Method α := fun state =>
  { state := state, warnings := [], outcome := .ok a }

instance : Monad Method where
  pure := Method.pure
  bind := Method.bind

/-- The state as it is. -/
def current : Method State := fun state =>
  { state := state, warnings := [], outcome := .ok state }

/-- Assign to the state. -/
def assign (change : State → State) : Method Unit := fun state =>
  { state := change state, warnings := [], outcome := .ok () }

/-- A check: it may warn or fail, and assigns nothing. -/
def check {α : Type} (noted : Noted α) : Method α := fun state =>
  { state := state, warnings := noted.warnings, outcome := noted.result }

/-! ## Blocks -/

def flushFile (rules : Rules) : Method Unit := do
  let state ← current
  if state.block = .file then
    if state.files.has state.pendingFile then
      check (remark rules (.repeatedFile state.pendingFile) state.pendingLine)
    assign fun state =>
      { state with files := state.files.put state.pendingFile state.pendingContent.flatten }
    assign fun state => { state with pendingContent := [] }

def openBlock (rules : Rules) (block : Block) : Method Unit := do
  flushFile rules
  assign fun state => { state with block := block }

def openFile (rules : Rules) (value : Text) (lineNum : Int) : Method Unit := do
  openBlock rules .file
  assign fun state => { state with pendingFile := Text.trim value }
  assign fun state => { state with pendingLine := lineNum }

/-! ## Scalars -/

/-- The integer of a row of digits, if there are not too many of them. -/
def readDigits (negative : Bool) (digits : Text) : Noted Int :=
  if maxDigits < digits.length then Noted.fail (.tooManyDigits digits.length)
  else
    let magnitude : Int := Text.digitsValue digits
    Noted.pure (if negative then -magnitude else magnitude)

def setReturnCode (rules : Rules) (value : Text) (lineNum : Int) : Method Unit := do
  let state ← current
  let text := Text.trim value
  match readInteger? text with
  | none =>
    check (Noted.fail (.fault
      { fault := .returnCode text
        line := Directive.returnCode.mark ++ value
        lineNum := lineNum
        filename := rules.filename
        block := some state.block }))
  | some (negative, digits) =>
    if state.returnCodeLine.isSome then
      check (remark rules .repeatedReturnCode lineNum)
    let code ← check (readDigits negative digits)
    assign fun state => { state with returnCode := code }
    assign fun state => { state with returnCodeLine := some lineNum }

def addArg (rules : Rules) (value : Text) : Method Unit :=
  assign fun state =>
    { state with args := state.args ++ [Placeholder.substitute rules.root (Text.trim value)] }

def addEnv (rules : Rules) (value : Text) (lineNum : Int) : Method Unit := do
  let state ← current
  let entry := Placeholder.substitute rules.root (Text.trim value)
  if isEnvEntry entry then
    assign fun state => { state with env := state.env ++ [entry] }
  else
    check (Noted.fail (.fault
      { fault := .envEntry entry
        line := Directive.env.mark ++ value
        lineNum := lineNum
        filename := rules.filename
        block := some state.block }))

/-! ## Lines -/

/-- Follow a directive. -/
def follow (rules : Rules) (directive : Directive) (value : Text) (lineNum : Int) : Method Unit :=
  match directive with
  | .stderr => openBlock rules .stderr
  | .stdout => openBlock rules .stdout
  | .stdin => openBlock rules .stdin
  | .file => openFile rules value lineNum
  | .returnCode => setReturnCode rules value lineNum
  | .arg => addArg rules value
  | .env => addEnv rules value lineNum

/-- Consume one line. -/
def feed (rules : Rules) (line : Text) (lineNum : Int) : Method Unit :=
  match classify line with
  | .directive directive value => follow rules directive value lineNum
  | .unknown => check (remark rules (.unknownDirective (Text.trim line)) lineNum)
  | .payload => assign (State.take rules line)

/-- Consume lines from the given line number on, up to the first that fails. -/
def feedAll (rules : Rules) (lineNum : Int) : List Text → Method Unit
  | [] => pure ()
  | line :: rest => do
    feed rules line lineNum
    feedAll rules (lineNum + 1) rest

/-! ## Schemes -/

/-- Drop everything that earlier calls have left. -/
def reset : Method Unit := do
  assign fun state => { state with block := .none }
  assign fun state => { state with files := [] }
  assign fun state => { state with args := [] }
  assign fun state => { state with env := [] }
  assign fun state => { state with stdin := [] }
  assign fun state => { state with stdout := [] }
  assign fun state => { state with stderr := [] }
  assign fun state => { state with returnCode := 0 }
  assign fun state => { state with returnCodeLine := none }
  assign fun state => { state with pendingFile := [] }
  assign fun state => { state with pendingLine := 0 }
  assign fun state => { state with pendingContent := [] }

/-- Interpret a scheme. -/
def parse (rules : Rules) (scheme : Text) : Method Plan := do
  reset
  match linesWithin rules.maxLineSize rules.filename scheme with
  | .error fault => check (Noted.fail (.fault fault))
  | .ok lines =>
    feedAll rules 0 lines
    flushFile rules
    let state ← current
    pure (state.plan rules scheme)

/-- The method without an answer. -/
def silent (method : Method Unit) : Method (Option Plan) := do
  method
  pure none

end Method

/-! ## Calls -/

/-- A call of a method. -/
inductive Call where
  | feed (line : Text) (lineNum : Int)
  /-- The method that a directive stands for, called by itself. -/
  | follow (directive : Directive) (value : Text) (lineNum : Int)
  | openBlock (block : Block)
  | flushFile
  | remark (remark : Remark) (lineNum : Int)
  | reset
  | parse (scheme : Text)

/-- The method that is called.  Only `parse` has an answer. -/
def Call.method (rules : Rules) : Call → Method (Option Plan)
  | .feed line lineNum => (Method.feed rules line lineNum).silent
  | .follow directive value lineNum => (Method.follow rules directive value lineNum).silent
  | .openBlock block => (Method.openBlock rules block).silent
  | .flushFile => (Method.flushFile rules).silent
  | .remark what lineNum => (Method.check (Scheme.remark rules what lineNum)).silent
  | .reset => Method.reset.silent
  | .parse scheme => do
    let plan ← Method.parse rules scheme
    Method.pure (some plan)

/-- A call that is made, and whether a remark is a failure at the time. -/
structure Event where
  call : Call
  escalate : Bool := false

/-- The rules of an interpreter as they are at an event. -/
def Event.rules (event : Event) (rules : Rules) : Rules :=
  { rules with escalate := event.escalate }

/-- The state that an event leaves, whether the call fails or not. -/
def Event.left (rules : Rules) (event : Event) (state : State) : State :=
  (event.call.method (event.rules rules) state).state

/-- The state that some events leave, one after another. -/
def State.after (rules : Rules) (events : List Event) (state : State) : State :=
  events.foldl (fun state event => event.left rules state) state

end SchemeCheck.Scheme

import SchemeCheck.Record.Fields
import SchemeCheck.Scheme.Plan

/-!
# SchemeCheck.Execution.Command

The description of a process that is about to be started, and the adjustments
that a caller can make to it before the start.
-/

namespace SchemeCheck

open Record

/-- A process that is about to be started. -/
structure Command where
  /-- The name of the program, or its path. -/
  program : Text
  args : List Text
  /-- The working directory. -/
  cwd : Path
  /-- The complete environment. -/
  env : Table Text Text
  stdin : Text
  /-- The name of the encoding of the standard streams. -/
  encoding : Text
  deriving DecidableEq

namespace Command

def argv (command : Command) : List Text :=
  command.program :: command.args

/-! ## Building -/

/-- Check the raw fields of a command. -/
def ofFields (fields : Fields) : Checked Command :=
  Command.mk
    <$> fields.required "program" nonEmptyTextRule
    <*> fields.optional "args" (listRule .notList textRule) []
    <*> fields.required "cwd" pathRule
    <*> fields.optional "env" tableRule []
    <*> fields.optional "stdin" textRule []
    <*> fields.optional "encoding" textRule "utf-8".toList
    <* fields.only ["program", "args", "cwd", "env", "stdin", "encoding"]

/-- Anchor a program outside of the fixture root, in which it will be started:
a relative path is seen from `base`, a bare name is left to the search path. -/
def anchorProgram (base : Path) (program : Text) : Text :=
  if !program.contains '/' then program
  else
    let path := Path.ofText program
    if path.isAbsolute then program else (base.join path).text

/-- The command for a plan.  The environment of the plan is laid over the
ambient one. -/
def forPlan (cwd : Path) (ambient : Table Text Text) (encoding program : Text)
    (plan : Scheme.Plan) : Checked Command :=
  let program := anchorProgram cwd program
  if program.isEmpty then
    (Checked.refuse .textTooShort).inside (.name "program".toList)
  else
    .valid
      { program := program
        args := plan.args
        cwd := plan.rootDir
        env := ambient.merge plan.environ
        stdin := plan.stdin
        encoding := encoding }

/-! ## Adjusting -/

/-- Why a command cannot be adjusted. -/
inductive Failure where
  /-- A value is not accepted. -/
  | invalid (problems : List Problem)
  /-- The field follows from others and cannot be assigned. -/
  | derived
  /-- A path is needed and something else was given. -/
  | notPath
  deriving DecidableEq

/-- Replace a field by a value that its rule accepts. -/
def replace {α : Type} (field : Text) (rule : Rule α) (value : Value) (set : α → Command) :
    Except Failure Command :=
  match (rule value).inside (.name field) with
  | .valid value => .ok (set value)
  | .invalid problems => .error (.invalid problems)

/-- Assign a field by name.  Names that start with an underscore are the
caller's own and change nothing. -/
def assign (field : Text) (value : Value) (command : Command) : Except Failure Command :=
  match String.ofList field with
  | "program" => replace field nonEmptyTextRule value fun program => { command with program }
  | "args" => replace field (listRule .notList textRule) value fun args => { command with args }
  | "cwd" => replace field pathRule value fun cwd => { command with cwd }
  | "env" => replace field tableRule value fun env => { command with env }
  | "stdin" => replace field textRule value fun stdin => { command with stdin }
  | "encoding" => replace field textRule value fun encoding => { command with encoding }
  | "argv" => .error .derived
  | _ =>
    if field.head? = some '_' then .ok command
    else .error (.invalid [{ place := [.name field], complaint := .unknownField }])

/-- A change that a caller makes to a command before it is started. -/
inductive Adjustment where
  /-- Lay variables over the environment. -/
  | withEnv (overlay : List (Value × Value))
  /-- Remove variables from the environment. -/
  | withoutEnv (names : List Value)
  /-- Run in another directory, seen from the current one. -/
  | withCwd (path : Value)
  /-- Put arguments in front. -/
  | withArgs (args : List Value)
  /-- Assign one field. -/
  | set (field : Text) (value : Value)

/-- Make one adjustment. -/
def adjust (adjustment : Adjustment) (command : Command) : Except Failure Command :=
  match adjustment with
  | .withEnv overlay =>
    let env := command.env.map fun entry => (Value.str entry.1, Value.str entry.2)
    command.assign "env".toList (Value.dictOf (env ++ overlay))
  | .withoutEnv names =>
    let removed := names.filterMap fun
      | .str name => some name
      | _ => none
    .ok { command with env := command.env.without removed }
  | .withCwd (.str path) => .ok { command with cwd := command.cwd.join (Path.ofText path) }
  | .withCwd _ => .error .notPath
  | .withArgs args =>
    command.assign "args".toList (.list (args ++ command.args.map Value.str))
  | .set field value => command.assign field value

/-- Make adjustments one after another, up to the first that fails. -/
def adjustAll (command : Command) (adjustments : List Adjustment) : Except Failure Command :=
  adjustments.foldlM (fun command adjustment => command.adjust adjustment) command

end Command

end SchemeCheck

import SchemeCheck.Encoding.Basic
import SchemeCheck.Execution.Command
import SchemeCheck.FileSystem.Basic
import SchemeCheck.Settings
import SchemeCheck.Text.ShellWords

/-!
# SchemeCheck.Session.Configuration

The configuration of a test session: the settings and the program that scheme
files are run against.  Both come from the command line of the session and
from its configuration file; a relative program is seen from where it was
given.
-/

namespace SchemeCheck.Session

/-- The options of a session's command line. -/
structure Options where
  strict : Bool := false
  program : Option Text := none
  deriving DecidableEq

/-- The values of a session's configuration file. -/
structure IniValues where
  /-- Whether scheme files are checked strictly; none if the value is no truth
  value. -/
  strict : Option Bool := some false
  /-- The program; none if the value is no text. -/
  program : Option Text := some []

/-- The configuration of a session. -/
structure Configuration where
  settings : Settings
  /-- The program, if one is configured. -/
  program : Option Text
  deriving DecidableEq

/-- Why a session is not configured. -/
inductive Failure where
  /-- The settings are not accepted. -/
  | settings (problems : List Record.Problem)
  /-- The command line or the configuration file is malformed. -/
  | usage
  /-- A line of words ends within one. -/
  | words (fault : Text.ShellFault)
  /-- A configuration file cannot be read. -/
  | file (cause : OsError)
  /-- A file is no text. -/
  | content (cause : Encoding.ReadFailure)
  /-- A configuration file has a section whose name is no longer in use. -/
  | oldSection
  /-- A component is asked for that does not exist. -/
  | noComponent
  /-- A version is asked for that is none. -/
  | noVersion
  /-- A file of words leads back to itself. -/
  | endless
  deriving DecidableEq

/-- The program of a session: the one of the command line, seen from where the
session was called, or else the one of the file, seen from its root. -/
def programOf (options : Options) (ini : IniValues) (called root : Path) :
    Except Failure (Option Text) :=
  let fromOptions := options.program.getD []
  if !fromOptions.isEmpty then .ok (some (Command.anchorProgram called fromOptions))
  else
    match ini.program with
    | none => .error .usage
    | some program =>
      .ok (if program.isEmpty then none else some (Command.anchorProgram root program))

/-- Configure a session. -/
def configure (environ : Table Text Text) (options : Options) (ini : IniValues)
    (called root : Path) : Except Failure Configuration :=
  match Settings.resolve environ [] with
  | .invalid problems => .error (.settings problems)
  | .valid settings => do
    let strict ←
      if options.strict then pure true
      else
        match ini.strict with
        | some strict => pure strict
        | none => throw .usage
    let program ← programOf options ini called root
    return { settings := { settings with strict := strict || settings.strict }
             program := program }

end SchemeCheck.Session

import SchemeCheck.FileSystem.Path
import SchemeCheck.Table

/-!
# SchemeCheck.Scheme.Plan

The test plan: a scheme with every placeholder substituted.  A plan determines
one execution and what is expected of it.
-/

namespace SchemeCheck.Scheme

/-- Whether an environment entry has the form `KEY=VALUE` with a key that is
not empty. -/
def isEnvEntry (entry : Text) : Bool :=
  match Text.cutAt '=' entry with
  | (key, some _) => !key.isEmpty
  | (_, none) => false

/-- An environment entry, split at its first `=`. -/
def splitEnvEntry (entry : Text) : Text × Text :=
  let (key, value?) := Text.cutAt '=' entry
  (key, value?.getD [])

/-- A fully resolved scheme. -/
structure Plan where
  /-- The fixture root that the plan was resolved against. -/
  rootDir : Path
  /-- The content of each fixture file, under its name. -/
  files : Table Text Text
  /-- The program arguments, without the program itself. -/
  args : List Text
  /-- The environment entries, of which later ones win. -/
  env : List Text
  /-- The exact standard input. -/
  stdin : Text
  /-- The expected standard output. -/
  stdout : Text
  /-- The expected standard error. -/
  stderr : Text
  /-- The expected return code. -/
  returnCode : Int
  /-- The scheme itself, for diagnostics. -/
  scheme : Text
  deriving DecidableEq

/-- The environment entries as a table. -/
def Plan.environ (plan : Plan) : Table Text Text :=
  Table.ofEntries (plan.env.map splitEnvEntry)

end SchemeCheck.Scheme

import SchemeCheck.Invocation
import SchemeCheck.Session.Configuration

/-!
# SchemeCheck.Session.Item

Scheme files as the test items of a session.  A file counts by its name, and
only if a program is configured.
-/

namespace SchemeCheck.Session

/-- Whether a file is a scheme file by its name: `test_`, at least one more
character on the same line, and `.scheme`.  One line feed may follow. -/
def isSchemeName (name : Text) : Bool :=
  let name := if name.getLast? = some '\n' then name.dropLast else name
  let front := "test_".toList
  let back := ".scheme".toList
  front.isPrefixOf name && back.isSuffixOf name && !name.contains '\n' &&
    decide (front.length + back.length < name.length)

/-- A scheme file that is run against a program. -/
structure Item where
  path : Path
  program : Text
  deriving DecidableEq

namespace Item

/-- The item of a file, if it is one. -/
def collect? (program : Option Text) (path : Path) : Option Item :=
  let program := program.getD []
  if program.isEmpty || !isSchemeName path.lastName then none
  else some { path := path, program := program }

def name (item : Item) : Text :=
  Path.stemOf item.path.lastName

def title (item : Item) : Text :=
  "scheme: ".toList ++ item.name

def run (item : Item) (harness : Harness) (root : Path) (fs : FileSystem) : Invocation Outcome :=
  harness.executeFile root item.program [] item.path.text fs

end Item

end SchemeCheck.Session

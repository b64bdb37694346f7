import SchemeCheck.Diagnostic
import SchemeCheck.Encoding.Name
import SchemeCheck.FileSystem.Basic

/-!
# SchemeCheck.Scheme.File

Reading schemes from files, with their line endings as they are.
-/

namespace SchemeCheck.Scheme

/-- Why a scheme file cannot be read. -/
inductive ReadFault where
  | file (cause : OsError)
  | content (cause : Encoding.ReadFailure)
  deriving DecidableEq

def ReadFault.cause : ReadFault → Text
  | file cause => cause.message
  | content cause => cause.message

/-- The full text about a scheme file that cannot be read. -/
def ReadFault.text (fault : ReadFault) (path : Path) : Text :=
  Diagnostic.format ("Failed to read test file: ".toList ++ fault.cause)
    (some { filename := some path.text })

/-- Why reading a scheme ends without a scheme. -/
inductive ReadFailure where
  | fault (path : Path) (fault : ReadFault)
  /-- The encoding does not exist. -/
  | encoding (cause : Encoding.LookupFailure)
  deriving DecidableEq

/-- Read a scheme file.  The file must be there before its encoding matters. -/
def load (fs : FileSystem) (cwd : Place) (encoding : Text) (path : Path) :
    Except ReadFailure Text :=
  if encoding.contains '\x00' then .error (.encoding .null)
  else
    match fs.read cwd path.text with
    | .error errno => .error (.fault path (.file (errno.about path.text)))
    | .ok bytes =>
      match Encoding.lookup encoding with
      | .error cause => .error (.encoding cause)
      | .ok encoding =>
        match encoding.decodeFile bytes with
        | .error cause => .error (.fault path (.content cause))
        | .ok text => .ok text

end SchemeCheck.Scheme

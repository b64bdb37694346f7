import SchemeCheck.Encoding.Name
import SchemeCheck.FileSystem.Basic

/-!
# SchemeCheck.Fixture

Writing the files that a plan declares under its fixture root.  A name is
resolved first, links included, and only a place strictly below the resolved
root is accepted; so whatever a scheme declares, nothing outside of the root is
touched.
-/

namespace SchemeCheck.Fixture

/-- Why a declared file cannot be written. -/
inductive Fault where
  | emptyName
  /-- The name does not lead to a place below the root. -/
  | outside (name : Text) (root : Path)
  /-- The directory of the file cannot be made. -/
  | directory (parent : Place) (name : Text) (cause : OsError)
  /-- The content cannot be expressed in the encoding. -/
  | content (name : Text) (cause : Encoding.EncodeFailure)
  /-- The file cannot be written. -/
  | write (name : Text) (cause : OsError)
  deriving DecidableEq

def Fault.message : Fault → Text
  | emptyName => "File name must not be empty".toList
  | outside name root =>
    "File ".toList ++ Text.quoted name ++ " is outside of the fixture root ".toList ++ root.text
  | directory parent name cause =>
    "Failed to create directory ".toList ++ (Path.ofNames parent).text ++
      " for test file ".toList ++ Text.quoted name ++ ": ".toList ++ cause.message
  | content name cause => failedWrite name cause.message
  | write name cause => failedWrite name cause.message
where
  failedWrite (name cause : Text) : Text :=
    "Failed to write test file ".toList ++ Text.quoted name ++ ": ".toList ++ cause

/-- Why the files of a plan are not written. -/
inductive Failure where
  | fault (fault : Fault)
  /-- The root or the name of a file is not resolved. -/
  | unresolved (cause : FileSystem.Unresolved)
  /-- The encoding does not exist. -/
  | encoding (cause : Encoding.LookupFailure)
  deriving DecidableEq

/-- The place of a declared file. -/
def locate (fs : FileSystem) (cwd : Place) (root : Path) (name : Text) : Except Failure Place :=
  if name.isEmpty then .error (.fault .emptyName)
  else
    match fs.tryResolve cwd root with
    | .error cause => .error (.unresolved cause)
    | .ok base =>
      match fs.tryResolve base (Path.ofText name) with
      | .error cause => .error (.unresolved cause)
      | .ok place =>
        if base.isPrefixOf place && decide (place ≠ base) then .ok place
        else .error (.fault (.outside name root))

/-- A file system after some work, and what the work came to. -/
structure Done (ε α : Type) where
  fs : FileSystem
  result : Except ε α

/-- Write one declared file. -/
def writeFile (cwd : Place) (root : Path) (encoding : Text) (name content : Text)
    (fs : FileSystem) : Done Failure Place :=
  match locate fs cwd root name with
  | .error failure => { fs := fs, result := .error failure }
  | .ok place =>
    let parent := place.dropLast
    match fs.makeDirectories parent with
    | (fs, some (errno, failed)) =>
      let cause := errno.about (Path.ofNames failed).text
      { fs := fs, result := .error (.fault (.directory parent name cause)) }
    | (fs, none) =>
      match Encoding.lookup encoding with
      | .error cause => { fs := fs, result := .error (.encoding cause) }
      | .ok encoding =>
        match encoding.encode content with
        | .error cause => { fs := fs, result := .error (.fault (.content name cause)) }
        | .ok bytes =>
          match fs.write place bytes with
          | .error errno =>
            let cause := errno.about (Path.ofNames place).text
            { fs := fs, result := .error (.fault (.write name cause)) }
          | .ok fs => { fs := fs, result := .ok place }

/-- Write the declared files one after another, up to the first that fails.
The answer is the place of each file. -/
def materialize (cwd : Place) (root : Path) (encoding : Text) :
    List (Text × Text) → FileSystem → Done Failure (List Place)
  | [], fs => { fs := fs, result := .ok [] }
  | (name, content) :: rest, fs =>
    let first := writeFile cwd root encoding name content fs
    match first.result with
    | .error failure => { fs := first.fs, result := .error failure }
    | .ok place =>
      let others := materialize cwd root encoding rest first.fs
      { fs := others.fs, result := others.result.map (place :: ·) }

end SchemeCheck.Fixture

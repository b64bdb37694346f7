import SchemeCheck.Encoding.Utf8
import SchemeCheck.FileSystem.Path
import SchemeCheck.Table
import SchemeCheck.Text.Quoted

/-!
# SchemeCheck.FileSystem.Basic

File systems as values: a table from places to directories, files and symbolic
links.  A place is the list of names from the root, and the root itself is
always a directory.  The operations fail as a system call does, with an error
number, and leave the file system as it was when they fail.
-/

namespace SchemeCheck

/-- What stands at a place of a file system. -/
inductive Entry where
  | directory
  | file (content : List UInt8)
  | link (target : Text)
  deriving DecidableEq

/-- The place of an entry: the names on the way from the root. -/
abbrev Place := List Text

/-- One component of a path. -/
def Place.climb (here : Place) (component : Text) : Place :=
  if component = [] ∨ component = ['.'] then here
  else if component = ['.', '.'] then here.dropLast
  else here ++ [component]

/-- The components that are left of a path, read as they are written.  A slash in
front of them starts at the root. -/
def Place.climbRest (here : Place) : List Text → Place
  | [] :: component :: rest => (component :: rest).foldl Place.climb []
  | rest => rest.foldl Place.climb here

/-- A file system. -/
structure FileSystem where
  entries : Table Place Entry

/-- Why an operation on a file system fails. -/
inductive Errno where
  | noEntry
  | exists
  | notDirectory
  | isDirectory
  | nameTooLong
  | tooManyLinks
  deriving DecidableEq

def Errno.code : Errno → Int
  | noEntry => 2
  | «exists» => 17
  | notDirectory => 20
  | isDirectory => 21
  | nameTooLong => 36
  | tooManyLinks => 40

def Errno.reason : Errno → Text
  | noEntry => "No such file or directory".toList
  | «exists» => "File exists".toList
  | notDirectory => "Not a directory".toList
  | isDirectory => "Is a directory".toList
  | nameTooLong => "File name too long".toList
  | tooManyLinks => "Too many levels of symbolic links".toList

/-- An error of the operating system. -/
structure OsError where
  code : Int
  reason : Text
  /-- The file that it is about. -/
  filename : Option Text := none
  deriving DecidableEq

def OsError.message (error : OsError) : Text :=
  "[Errno ".toList ++ Text.ofInt error.code ++ "] ".toList ++ error.reason ++
    (match error.filename with
     | some filename => ": ".toList ++ Text.quoted filename
     | none => [])

/-- An error number as an error about a file. -/
def Errno.about (errno : Errno) (filename : Text) : OsError :=
  { code := errno.code, reason := errno.reason, filename := some filename }

namespace FileSystem

/-! ## Entries -/

def entry? (fs : FileSystem) (place : Place) : Option Entry :=
  if place = [] then some .directory else Table.get? place fs.entries

def put (place : Place) (entry : Entry) (fs : FileSystem) : FileSystem :=
  { entries := Table.put place entry fs.entries }

def isDirectory (fs : FileSystem) (place : Place) : Bool :=
  fs.entry? place = some .directory

/-- Every entry below a place under its path from there, in the order of the
paths. -/
def below (fs : FileSystem) (place : Place) : List (Text × Entry) :=
  let found := fs.entries.filterMap fun entry =>
    match Text.stripFront? place entry.1 with
    | some (name :: names) => some (Text.joinWith ['/'] (name :: names), entry.2)
    | _ => none
  found.mergeSort fun x y => !decide (y.1 < x.1)

/-! ## Walking -/

/-- How many bytes a name may have. -/
def maxNameSize : Nat := 255

/-- How many bytes a path must stay below. -/
def maxPathSize : Nat := 4096

/-- How many links may be followed on the way to one entry. -/
def maxLinks : Nat := 40

/-- How many bytes a text takes. -/
def sizeOf (text : Text) : Nat :=
  (Encoding.Utf8.encode text).length

/-- The steps of a written path.  A slash at the end asks for a directory, as a
last step to `.` does. -/
def stepsOf (text : Text) : List Text :=
  let names := (Text.splitOn '/' text).filter (fun name => !name.isEmpty)
  if text.getLast? = some '/' then names ++ [['.']] else names

/-- Walk from a place, where `follow` walks on from a link.  Where `fresh` is set,
nothing need stand at the last name. -/
def walkFrom (fs : FileSystem) (fresh : Bool) (follow : Place → List Text → Except Errno Place) :
    Place → List Text → Except Errno Place
  | here, [] => .ok here
  | here, name :: rest =>
    if !fs.isDirectory here then .error .notDirectory
    else if name = ['.'] then fs.walkFrom fresh follow here rest
    else if name = ['.', '.'] then fs.walkFrom fresh follow here.dropLast rest
    else if maxNameSize < sizeOf name then .error .nameTooLong
    else
      match fs.entry? (here ++ [name]) with
      | none => if fresh && rest.isEmpty then .ok (here ++ [name]) else .error .noEntry
      | some (.link target) =>
        follow (if (Path.ofText target).isAbsolute then [] else here) (stepsOf target ++ rest)
      | some _ => fs.walkFrom fresh follow (here ++ [name]) rest

/-- Walk from a place, following at most the given number of links. -/
def walk (fs : FileSystem) (fresh : Bool) : Nat → Place → List Text → Except Errno Place
  | 0 => fs.walkFrom fresh fun _ _ => .error .tooManyLinks
  | links + 1 => fs.walkFrom fresh (fs.walk fresh links)

/-- The place that a written path leads to, seen from a directory. -/
def locate (fs : FileSystem) (cwd : Place) (text : Text) : Except Errno Place :=
  if text.isEmpty then .error .noEntry
  else if maxPathSize ≤ sizeOf text then .error .nameTooLong
  else fs.walk false maxLinks (if (Path.ofText text).isAbsolute then [] else cwd) (stepsOf text)

/-! ## Operations -/

/-- The content of the file that a written path leads to. -/
def read (fs : FileSystem) (cwd : Place) (text : Text) : Except Errno (List UInt8) := do
  let place ← fs.locate cwd text
  match fs.entry? place with
  | some (.file content) => .ok content
  | some .directory => .error .isDirectory
  | _ => .error .noEntry

/-- Where a new entry is made for a written place: in the directory that its
names lead to, under its last name.  Names and path must not be too long. -/
def vacancy (fs : FileSystem) (place : Place) : Except Errno Place := do
  if maxPathSize ≤ sizeOf (Path.ofNames place).text then .error .nameTooLong
  let parent ← fs.walk false maxLinks [] place.dropLast
  if !fs.isDirectory parent then .error .notDirectory
  else if maxNameSize < sizeOf (place.getLast?.getD []) then .error .nameTooLong
  else .ok (parent ++ place.getLast?.toList)

/-- Make a directory.  A link at its place is in the way, wherever it leads. -/
def makeDirectory (fs : FileSystem) (place : Place) : Except Errno FileSystem := do
  let place ← fs.vacancy place
  match fs.entry? place with
  | some _ => .error .exists
  | none => .ok (fs.put place .directory)

/-- Write a file.  A link at its place is followed, even to a file that is not
there yet. -/
def write (fs : FileSystem) (place : Place) (content : List UInt8) : Except Errno FileSystem := do
  if maxPathSize ≤ sizeOf (Path.ofNames place).text then .error .nameTooLong
  let place ← fs.walk true maxLinks [] place
  match fs.entry? place with
  | some .directory => .error .isDirectory
  | _ => .ok (fs.put place (.file content))

/-- Whether the names of a place lead to a directory. -/
def leadsToDirectory (fs : FileSystem) (place : Place) : Bool :=
  match fs.walk false maxLinks [] place with
  | .ok found => fs.isDirectory found
  | .error _ => false

/-- Make a directory and those above it that are missing.  The answer is the
file system as far as that came, and the place that could not be made.  The
recursion limit of an interpreter, which is met at about a thousand missing
levels, is left out. -/
def makeDirectories (fs : FileSystem) : Place → FileSystem × Option (Errno × Place)
  | place => go place.length place fs
where
  /-- Make the directory at a place of at most `depth` names. -/
  go (depth : Nat) (place : Place) (fs : FileSystem) : FileSystem × Option (Errno × Place) :=
    match fs.makeDirectory place, depth with
    | .ok made, _ => (made, none)
    | .error .noEntry, 0 => (fs, some (.noEntry, place))
    | .error .noEntry, depth + 1 =>
      match go depth place.dropLast fs with
      | (above, some failure) => (above, some failure)
      | (above, none) =>
        match above.makeDirectory place with
        | .ok made => (made, none)
        | .error errno => (above, if above.leadsToDirectory place then none else some (errno, place))
    | .error errno, _ => (fs, if fs.leadsToDirectory place then none else some (errno, place))

/-! ## Resolving -/

/-- Why a path is not resolved. -/
inductive Unresolved where
  /-- A name holds the character U+0000. -/
  | null
  /-- A link leads back to itself, and that is where the path leads. -/
  | loop (place : Place)
  deriving DecidableEq

def Unresolved.message : Unresolved → Text
  | null => "embedded null byte".toList
  | loop place => "Symlink loop from ".toList ++ Text.quoted (Path.ofNames place).text

/-- Resolve the components of a path from a place.  Names that lead past existing
entries stay as they are; `follow` says where the link at a place leads, or where
it is caught in a loop, and what is left behind a loop is not followed. -/
def resolveFrom (fs : FileSystem) (follow : Place → Text → Except Place Place) :
    Place → List Text → Except Place Place
  | here, [] => .ok here
  | here, component :: rest =>
    if component = [] ∨ component = ['.'] ∨ component = ['.', '.'] then
      fs.resolveFrom follow (here.climb component) rest
    else
      match fs.entry? (here ++ [component]) with
      | some (.link target) =>
        match follow (here ++ [component]) target with
        | .ok there => fs.resolveFrom follow there rest
        | .error caught => .error (caught.climbRest rest)
      | _ => fs.resolveFrom follow (here ++ [component]) rest

/-- Where the link at a place leads, or where it is caught in a loop.  The links in
`active` are those on which this one has been met: one that is met on itself leads
nowhere. -/
def followLink (fs : FileSystem) : Nat → List Place → Place → Text → Except Place Place
  | 0, _, place, _ => .error place
  | depth + 1, active, place, target =>
    if place ∈ active then .error place
    else
      fs.resolveFrom (fs.followLink depth (place :: active))
        (if (Path.ofText target).isAbsolute then [] else place.dropLast)
        (Text.splitOn '/' target)

/-- Where a path leads that is seen from a directory, or where it is caught in a loop
of links.  Links that are met on one another are no more than there are entries. -/
def trace (fs : FileSystem) (cwd : Place) (path : Path) : Except Place Place :=
  fs.resolveFrom (fs.followLink fs.entries.length []) (if path.isAbsolute then [] else cwd)
    path.names

/-- The place of a path seen from a directory, without links and `..` as far as no
loop is on the way. -/
def resolve (fs : FileSystem) (cwd : Place) (path : Path) : Place :=
  match fs.trace cwd path with
  | .ok place | .error place => place

/-- The place of a path seen from a directory, if it is not in a loop. -/
def tryResolve (fs : FileSystem) (cwd : Place) (path : Path) : Except Unresolved Place :=
  if path.names.any (·.contains '\x00') then .error .null
  else
    match fs.trace cwd path with
    | .ok place => .ok place
    | .error place =>
      match fs.locate [] (Path.ofNames place).text with
      | .error .tooManyLinks => .error (.loop place)
      | _ => .ok place

end FileSystem

end SchemeCheck

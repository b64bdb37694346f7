import SchemeCheck.Encoding.Basic
import SchemeCheck.FileSystem.Basic
import SchemeCheck.Session.Ini
import SchemeCheck.Session.Toml

/-!
# SchemeCheck.Session.Layout

Where a session finds its configuration.  The files of some names are looked
for in the directory that holds all operands and in those above it; the first
one that holds a configuration tells the root of the session as well.
-/

namespace SchemeCheck.Session

/-! ## Configuration files -/

/-- A value of a configuration. -/
structure Held where
  value : Value
  /-- Whether the value keeps the kind with which it was written. -/
  typed : Bool := false

/-- The values of a configuration under their names. -/
abbrev Held.Table := SchemeCheck.Table Text Held

/-- Why a session has no configuration. -/
inductive LayoutFault where
  /-- A file or a word is malformed. -/
  | usage
  /-- A file cannot be read. -/
  | file (cause : OsError)
  /-- A file is no text. -/
  | content (cause : Encoding.ReadFailure)
  /-- A section has a name that is no longer in use. -/
  | oldSection
  deriving DecidableEq

/-- The kinds of configuration files. -/
inductive FileKind where
  | ini
  | cfg
  | toml
  | other
  deriving DecidableEq

/-- The kind of a file, by its name. -/
def FileKind.ofName (name : Text) : FileKind :=
  let stem := Path.stemOf name
  match String.ofList (name.drop stem.length) with
  | ".ini" => ini
  | ".cfg" => cfg
  | ".toml" => toml
  | _ => other

/-- The values of a section. -/
def Ini.held (ini : Ini) (header : String) : Held.Table :=
  ini.declarations.filterMap fun declaration =>
    if declaration.header = some header.toList then
      declaration.name.map fun name => (name, { value := .str declaration.value })
    else none

/-- Whether a file has a section. -/
def Ini.has (ini : Ini) (header : String) : Bool :=
  ini.declarations.any fun declaration => declaration.header = some header.toList

def tableEntries : Value → List (Text × Value)
  | .dict entries => entries.filterMap fun
    | (.str name, value) => some (name, value)
    | _ => none
  | _ => []

def entryOf (name : String) (value : Value) : Option Value :=
  (tableEntries value).lookup name.toList

/-- Entries that keep their kinds. -/
def typedEntries (entries : List (Text × Value)) : Held.Table :=
  entries.map fun (name, value) => (name, { value := value, typed := true })

/-- An entry whose value counts as text, unless it is a list. -/
def plainEntry (entry : Text × Value) : Text × Held :=
  (entry.1, { value := match entry.2 with
    | .list items => .list items
    | value => .str value.display })

/-- The configuration in a table for a program among others: its own values,
or values as text in a table of their own, but not both. -/
def heldAmongOthers (document : Value) : Except LayoutFault (Option Held.Table) :=
  let own := (((entryOf "tool" document).bind (entryOf "pytest")).map tableEntries).getD []
  let typed := own.filter fun entry => entry.1 ≠ "ini_options".toList
  let plain := (own.lookup "ini_options".toList).map tableEntries
  match typed, plain with
  | [], none => .ok none
  | [], some entries => .ok (some (entries.map plainEntry))
  | entry :: rest, none => .ok (some (typedEntries (entry :: rest)))
  | entry :: rest, some [] => .ok (some (typedEntries (entry :: rest)))
  | _ :: _, some (_ :: _) => .error .usage

/-- The names of files that are for sessions alone: they count even if they are
empty. -/
def ownIniNames : List String := ["pytest.ini", ".pytest.ini"]

/-- The same for TOML files. -/
def ownTomlNames : List String := ["pytest.toml", ".pytest.toml"]

/-- The configuration in an INI file, if it holds one. -/
def heldInIni (name text : Text) : Except LayoutFault (Option Held.Table) :=
  match Ini.read? text with
  | none => .error .usage
  | some ini =>
    if ini.has "pytest" then .ok (some (ini.held "pytest"))
    else if ownIniNames.contains (String.ofList name) then .ok (some [])
    else .ok none

/-- The configuration in a file of several programs, if it holds one. -/
def heldInCfg (text : Text) : Except LayoutFault (Option Held.Table) :=
  match Ini.read? text with
  | none => .error .usage
  | some ini =>
    if ini.has "tool:pytest" then .ok (some (ini.held "tool:pytest"))
    else if ini.has "pytest" then .error .oldSection
    else .ok none

/-- The configuration in a TOML file, if it holds one. -/
def heldInToml (name text : Text) : Except LayoutFault (Option Held.Table) :=
  match Toml.read? text with
  | none => .error .usage
  | some document =>
    if ownTomlNames.contains (String.ofList name) then
      .ok (some (typedEntries (((entryOf "pytest" document).map tableEntries).getD [])))
    else heldAmongOthers document

/-- The text of a configuration file. -/
def configurationText (kind : FileKind) (content : List UInt8) : Except LayoutFault Text :=
  let encoding : Encoding := if kind = .toml then .utf8 else .utf8Signed
  (encoding.decodeFile content).mapError .content

/-- The configuration in the file that a place leads to, if it holds one. -/
def heldAt (fs : FileSystem) (place : Place) : Except LayoutFault (Option Held.Table) := do
  let path := Path.ofNames place
  let name := path.lastName
  let kind := FileKind.ofName name
  if kind = .other then return none
  else
    match fs.read [] path.text with
    | .error errno => throw (.file (errno.about path.text))
    | .ok content =>
      let text ← configurationText kind content
      match kind with
      | .ini => heldInIni name text
      | .cfg => heldInCfg text
      | .toml => heldInToml name text
      | .other => return none

/-! ## Directories -/

/-- The place of a written path seen from a directory, by its names alone:
`..` takes back the name before it. -/
def placeByNames (cwd : Place) (text : Text) : Place :=
  let path := Path.ofText text
  path.names.foldl (fun place name => if name = ['.', '.'] then place.dropLast else place ++ [name])
    (if path.isAbsolute then [] else cwd)

/-- The place that a path by its names leads to, if something stands there. -/
def leadsTo? (fs : FileSystem) (place : Place) : Option Place :=
  match fs.locate [] (Path.ofNames place).text with
  | .ok found => some found
  | .error _ => none

def isFolder (fs : FileSystem) (place : Place) : Bool :=
  ((leadsTo? fs place).map fs.isDirectory).getD false

def isFile (fs : FileSystem) (place : Place) : Bool :=
  ((leadsTo? fs place).map fun found => !fs.isDirectory found).getD false

/-- The part of an operand that names a file. -/
def filePart (operand : Text) : Text :=
  let colons (text : Text) : Bool := [':', ':'].isPrefixOf text
  match (List.range operand.length).find? fun i => colons (operand.drop i) with
  | some i => operand.take i
  | none => operand

/-- The directories of the operands that exist. -/
def operandFolders (fs : FileSystem) (cwd : Place) (operands : List Text) : List Place :=
  operands.filterMap fun operand =>
    if operand.head? = some '-' then none
    else
      let place := placeByNames cwd (filePart operand)
      (leadsTo? fs place).map fun found => if fs.isDirectory found then place else place.dropLast

/-- The names with which both places start. -/
def sharedPlace : Place → Place → Place
  | x :: xs, y :: ys => if x = y then x :: sharedPlace xs ys else []
  | _, _ => []

/-- The place that holds all of some, or another one if there are none. -/
def sharedBy (otherwise : Place) : List Place → Place
  | [] => otherwise
  | first :: rest => rest.foldl sharedPlace first

/-- A place and those above it, from the inside out. -/
def upwards (place : Place) : List Place :=
  (List.range (place.length + 1)).reverse.map place.take

/-! ## Finding -/

/-- The names of configuration files, the first that counts first. -/
def configurationNames : List String :=
  ["pytest.toml", ".pytest.toml", "pytest.ini", ".pytest.ini", "pyproject.toml", "tox.ini",
   "setup.cfg"]

/-- A configuration and where it was found. -/
structure Found where
  root : Place
  held : Held.Table

/-- The first configuration among files of one directory.  Those behind it are
read as well, since they must not be malformed. -/
def foundIn (fs : FileSystem) (folder : Place) : List String → Except LayoutFault (Option Found)
  | [] => .ok none
  | name :: rest =>
    let place := folder ++ [name.toList]
    if !isFile fs place then foundIn fs folder rest
    else do
      match ← heldAt fs place with
      | none => foundIn fs folder rest
      | some held =>
        rest.forM fun name => do
          if isFile fs (folder ++ [name.toList]) then
            let _ ← heldAt fs (folder ++ [name.toList])
        return some { root := folder, held := held }

/-- The first configuration among those of some directories. -/
def foundAmong (fs : FileSystem) : List Place → Except LayoutFault (Option Found)
  | [] => .ok none
  | folder :: rest => do
    match ← foundIn fs folder configurationNames with
    | some found => return some found
    | none => foundAmong fs rest

/-- The name of a file for several programs, whose directory serves as root if
nothing else does. -/
def sharedName : String := "pyproject.toml"

/-- The configuration that is found from some places upwards. -/
def foundFrom (fs : FileSystem) (places : List Place) : Except LayoutFault (Option Found) := do
  let folders := places.flatMap upwards
  match ← foundAmong fs folders with
  | some found => return some found
  | none =>
    return (folders.find? fun folder => isFile fs (folder ++ [sharedName.toList])).map fun folder =>
      { root := folder, held := [] }

def rootMark : String := "setup.py"

/-- The root and the configuration of a session that is called at a place with
operands. -/
def found (fs : FileSystem) (called : Place) (operands : List Text) : Except LayoutFault Found := do
  let folders := operandFolders fs called operands
  let shared := sharedBy called folders
  match ← foundFrom fs [shared] with
  | some found => return found
  | none =>
    match (upwards shared).find? fun folder => isFile fs (folder ++ [rootMark.toList]) with
    | some root => return { root := root, held := [] }
    | none =>
      let apart ←
        if folders = [shared] then pure none
        else foundFrom fs (if folders.isEmpty then [called] else folders)
      match apart with
      | some found => return found
      | none =>
        let root := sharedPlace called shared
        return { root := if root.isEmpty then shared else root, held := [] }

end SchemeCheck.Session

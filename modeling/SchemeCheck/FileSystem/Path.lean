import SchemeCheck.Text.Basic

/-!
# SchemeCheck.FileSystem.Path

Paths as they are written: an anchor and the names after it.  Reading a path
drops empty names and `.`, and keeps `..`, because what `..` means depends on
the links on the way.  Two leading slashes are an anchor of their own; one
slash, or three and more, are the root.
-/

namespace SchemeCheck

/-- Where a path starts. -/
inductive Anchor where
  /-- At the current directory. -/
  | here
  /-- At the root. -/
  | root
  /-- At the root, written with two slashes. -/
  | doubleRoot
  deriving DecidableEq

/-- A path. -/
structure Path where
  anchor : Anchor
  names : List Text
  deriving DecidableEq

namespace Path

/-- How an anchor is written. -/
def anchorText : Anchor → Text
  | .here => []
  | .root => ['/']
  | .doubleRoot => ['/', '/']

/-- The anchor of a written path, told by its leading slashes. -/
def anchorOf (text : Text) : Anchor :=
  match (text.takeWhile (· = '/')).length with
  | 0 => .here
  | 2 => .doubleRoot
  | _ => .root

/-- The names of a written path, without empty ones and `.`. -/
def namesOf (text : Text) : List Text :=
  (Text.splitOn '/' text).filter (fun name => !(name.isEmpty || name = ['.']))

def ofText (text : Text) : Path :=
  { anchor := anchorOf text, names := namesOf text }

/-- The path as text; the empty path is the current directory. -/
def text (path : Path) : Text :=
  match path.anchor, path.names with
  | .here, [] => ['.']
  | anchor, names => anchorText anchor ++ Text.joinWith ['/'] names

def isAbsolute (path : Path) : Bool :=
  path.anchor ≠ .here

/-- The path `below` seen from `path`: itself if it is absolute. -/
def join (path below : Path) : Path :=
  if below.isAbsolute then below
  else { path with names := path.names ++ below.names }

def ofNames (names : List Text) : Path :=
  { anchor := .root, names := names }

/-- The last name, empty if there is none. -/
def lastName (path : Path) : Text :=
  path.names.getLast?.getD []

def parent (path : Path) : Path :=
  { path with names := path.names.dropLast }

/-- A name without its last suffix: the last dot and what follows it, unless
the name starts or ends with that dot. -/
def stemOf (name : Text) : Text :=
  let suffix := name.reverse.takeWhile (· ≠ '.')
  let stem := name.take (name.length - suffix.length - 1)
  if suffix.isEmpty || stem.isEmpty || suffix.length = name.length then name else stem

end Path

end SchemeCheck

import SchemeCheck.Text.Blank
import SchemeCheck.Text.Breaks

/-!
# SchemeCheck.Session.Ini

Configuration files of sections with named values.  A section starts with its
name in brackets; a value follows `=` or `:` after its name, and may go on in
lines that start with a blank.  Rows that are empty or start with `#` or `;`
do not count.  Nothing may be declared twice.
-/

namespace SchemeCheck.Session

/-- A section or a value as it was declared. -/
structure Declaration where
  header : Option Text
  /-- The name of the value; none for the section itself. -/
  name : Option Text
  value : Text
  deriving DecidableEq

/-- What a row means. -/
inductive Row where
  | nothing
  | header (name : Text)
  | value (name value : Text)
  | more (value : Text)
  | unreadable

def startsComment (c : Char) : Bool :=
  c = '#' || c = ';'

def trimEnd (text : Text) : Text :=
  (text.reverse.dropWhile Text.isBlank).reverse

/-- The name in a header, if the row is one up to a comment. -/
def headerName? (row : Text) : Option Text :=
  let upTo (mark : Char) (text : Text) : Text := trimEnd (text.takeWhile (· ≠ mark))
  let row := upTo ';' (upTo '#' row)
  if row.getLast? = some ']' then some (row.dropLast.drop 1) else none

/-- What a row means. -/
def readRow (row : Text) : Row :=
  let row := trimEnd row
  match row.dropWhile Text.isBlank with
  | [] => .nothing
  | c :: rest =>
    if startsComment c then .nothing
    else if row.head? = some '[' then
      match headerName? row with
      | some name => .header name
      | none => .more (c :: rest)
    else if row.head? ≠ some c then .more (c :: rest)
    else
      match Text.cutAt '=' row with
      | (name, some value) =>
        if name.contains ':' then
          let (name, value?) := Text.cutAt ':' row
          .value (Text.trim name) (Text.trim (value?.getD []))
        else .value (Text.trim name) (Text.trim value)
      | (_, none) =>
        match Text.cutAt ':' row with
        | (name, some value) => .value (Text.trim name) (Text.trim value)
        | (_, none) => .unreadable

/-- The declarations of some rows, the last one first. -/
def declarations : Option Text → List Declaration → List Row → Option (List Declaration)
  | _, done, [] => some done
  | here, done, .nothing :: rest => declarations here done rest
  | _, done, .header name :: rest =>
    if name.isEmpty then none
    else
      declarations (some name) ({ header := some name, name := none, value := [] } :: done) rest
  | here, done, .value name value :: rest =>
    declarations here ({ header := here, name := some name, value := value } :: done) rest
  | here, last :: done, .more value :: rest =>
    if last.name.isNone then none
    else
      let value := if last.value.isEmpty then value else last.value ++ '\n' :: value
      declarations here ({ last with value := value } :: done) rest
  | _, [], .more _ :: _ => none
  | _, _, .unreadable :: _ => none

/-- A configuration file. -/
structure Ini where
  declarations : List Declaration

namespace Ini

/-- Read a configuration file. -/
def read? (text : Text) : Option Ini := do
  let found ← Session.declarations none [] ((Text.rows text).map readRow)
  let keys := found.map fun declaration => (declaration.header, declaration.name)
  guard (found.all (·.header.isSome) && decide (keys.eraseDups.length = keys.length))
  return { declarations := found.reverse }

end Ini

end SchemeCheck.Session

import SchemeCheck.Record.Rule

/-!
# SchemeCheck.Record.Fields

Records from raw fields.  Declared fields are checked in the order of their
declaration, and then every other field is refused, in the order in which they
were given.
-/

namespace SchemeCheck.Record

/-- Raw fields, in the order in which they were given. -/
abbrev Fields := List (Text × Value)

namespace Fields

variable {α : Type}

/-- Check a field that must be given. -/
def required (name : String) (rule : Rule α) (fields : Fields) : Checked α :=
  (match Table.get? name.toList fields with
   | some value => rule value
   | none => .refuse .missing).inside (.name name.toList)

/-- Check a field that has a default. -/
def optional (name : String) (rule : Rule α) (default : α) (fields : Fields) : Checked α :=
  match Table.get? name.toList fields with
  | some value => (rule value).inside (.name name.toList)
  | none => .valid default

/-- Refuse every field that is not declared. -/
def only (declared : List String) (fields : Fields) : Checked Unit :=
  match fields.filter (fun field => !declared.contains (String.ofList field.1)) with
  | [] => .valid ()
  | extras =>
    .invalid (extras.map fun field => { place := [.name field.1], complaint := .extra })

end Fields

/-- The problem of assigning to a record that cannot be changed.  Names that
start with an underscore are the caller's own and change nothing. -/
def assignFrozen (name : Text) : Option Problem :=
  if name.head? = some '_' then none
  else some { place := [.name name], complaint := .frozen }

end SchemeCheck.Record

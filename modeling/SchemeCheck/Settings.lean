import SchemeCheck.Record.Fields

/-!
# SchemeCheck.Settings

The settings of the harness.  Each can be set by an environment variable; a
value that is given directly comes first.  Values whose names start with an
underscore are no settings: they tell how the environment is read.
-/

namespace SchemeCheck

open Record

/-- The settings of the harness. -/
structure Settings where
  /-- Whether suspicious content is reported. -/
  strict : Bool
  /-- How many characters a scheme line may have. -/
  maxLineSize : Int
  /-- The name of the encoding of files, standard input and output. -/
  encoding : Text
  deriving DecidableEq

namespace Settings

/-! ## Fields and their defaults -/

def defaultMaxLineSize : Int := 1024 * 1024

def defaultEncoding : Text := "utf-8".toList

def names : List String := ["strict", "max_line_size", "encoding"]

/-- Check the raw settings; fields that are no settings do not matter. -/
def ofFields (fields : Fields) : Checked Settings :=
  Settings.mk
    <$> fields.optional "strict" truthRule false
    <*> fields.optional "max_line_size" (integerAboveRule 0) defaultMaxLineSize
    <*> fields.optional "encoding" nonEmptyTextRule defaultEncoding

/-! ## Where settings come from -/

/-- How names are looked up and how an environment is read. -/
structure Source where
  /-- What the names of environment variables start with. -/
  front : Text := "EXECTEST_".toList
  /-- Whether names in another case are other names. -/
  caseMatters : Bool := false
  /-- Whether a variable without a value counts as absent. -/
  skipsEmpty : Bool := false
  /-- The value of a variable that stands for nothing. -/
  nothing : Option Text := none

namespace Source

/-- A name in the form in which names are compared. -/
def fold (source : Source) (name : Text) : Text :=
  if source.caseMatters then name else name.map Char.toLower

/-- The source that given values ask for. -/
def ofGiven (given : Fields) : Source :=
  let option (name : String) : Option Value :=
    (Table.get? name.toList given).filter fun
      | .null => false
      | _ => true
  let asked (name : String) : Bool := ((option name).map fun value => !value.isVoid).getD false
  let text? (name : String) : Option Text :=
    (option name).bind fun
      | .str text => some text
      | _ => none
  { front := (text? "_env_prefix").getD "EXECTEST_".toList
    caseMatters := asked "_case_sensitive"
    skipsEmpty := asked "_env_ignore_empty"
    nothing := text? "_env_parse_none_str" }

/-- The value that is given directly for a setting.  Of two names that differ
in case only the first one counts. -/
def given? (source : Source) (name : String) (given : Fields) : Option Value :=
  (given.find? fun field => decide (source.fold field.1 = name.toList)).map Prod.snd

/-- The value that an environment holds for a setting.  Of two variables that
differ in case only the later one counts. -/
def held? (source : Source) (name : String) (environ : Table Text Text) : Option Value :=
  let counts (entry : Text × Text) : Bool :=
    decide (source.fold entry.1 = source.fold (source.front ++ name.toList)) &&
      !(source.skipsEmpty && entry.2.isEmpty)
  (environ.reverse.find? counts).map fun entry =>
    if source.nothing = some entry.2 then .null else .str entry.2

end Source

/-- The settings from an environment and directly given values. -/
def resolve (environ : Table Text Text) (given : Fields) : Checked Settings :=
  let source := Source.ofGiven given
  ofFields <| names.filterMap fun name =>
    (source.given? name given <|> source.held? name environ).map fun value =>
      (name.toList, value)

end Settings

end SchemeCheck

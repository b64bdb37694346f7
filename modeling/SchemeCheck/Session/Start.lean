import SchemeCheck.Session.Configuration
import SchemeCheck.Session.KnownOptions
import SchemeCheck.Session.Layout
import SchemeCheck.Session.Version
import SchemeCheck.Session.WarningFilter

/-!
# SchemeCheck.Session.Start

From the words of a session's command line to its configuration.  Words may
stand in files and in the environment, and the configuration file may add more;
it is found with the help of the operands.  Everything is checked on the way,
also what does not bear on the configuration.
-/

namespace SchemeCheck.Session

/-- Where a session is started. -/
structure Surroundings where
  environ : Table Text Text
  fs : FileSystem
  /-- The directory in which it is called. -/
  called : Place

namespace Surroundings

/-! ## Words -/

/-- How many files of words may lead from one to the next. -/
def maxFileDepth : Nat := 1000

/-- The words of a file, one in a row. -/
def fileWords (here : Surroundings) (name : Text) : Except Failure (List Text) :=
  match here.fs.read here.called name with
  | .error _ => .error .usage
  | .ok content =>
    match (Encoding.utf8).decodeFile content with
    | .error cause => .error (.content cause)
    | .ok text => .ok (Text.rows text)

/-- Words in which a file stands for the words in it: the name of the file
follows an `@`.  Files may name other ones, `depth` deep. -/
def expand (here : Surroundings) : Nat → List Text → Except Failure (List Text)
  | 0, words =>
    if words.any (fun word => word.head? = some '@') then .error .endless else .ok words
  | depth + 1, words =>
    (words.mapM fun word =>
      match word with
      | '@' :: name => do here.expand depth (← here.fileWords name)
      | _ => pure [word]).map List.flatten

/-- Read words against the options that are known; those that nothing is known
of are left. -/
def readKnown (here : Surroundings) (options : List (KnownOption Role)) (words : List Text) :
    Except Failure (Reading Role) := do
  let words ← here.expand maxFileDepth words
  match readTogether options words with
  | none => throw .usage
  | some reading =>
    if reading.isWellFormed here.fs here.called then return reading else throw .usage

def valuesOf (meaning : Meaning) (given : List (Role × Option Text)) : List Text :=
  given.filterMap fun (role, value?) => if role.meaning = meaning then value? else none

/-- The operands of a reading; words without a dash that are left count as
well. -/
def operandsOf (reading : Reading Role) : List Text :=
  reading.operands ++ reading.left.filter fun word => word.head? ≠ some '-'

/-- The options of a session that bear on its configuration. -/
def optionsOf (given : List (Role × Option Text)) : Options where
  strict := given.any fun entry => entry.1.meaning = .strict
  program := (valuesOf .program given).getLast?

/-- The options up to the first that asks for help, if one does. -/
def upToHelp? (given : List (Role × Option Text)) : Option (List (Role × Option Text)) :=
  if given.any fun entry => entry.1.meaning = .help then
    some (given.takeWhile fun entry => entry.1.meaning ≠ .help)
  else none

/-- Read words once more, now in two passes and without anything left, unless
help is asked for. -/
def readFinally (here : Surroundings) (options : List (KnownOption Role)) (words : List Text) :
    Except Failure Options := do
  let words ← here.expand maxFileDepth words
  match readApart options words with
  | none => throw .usage
  | some (first, second) =>
    match upToHelp? first.given, upToHelp? second.given with
    | some given, _ => return optionsOf given
    | none, some given => return optionsOf (first.given ++ given)
    | none, none =>
      if second.isWellFormed here.fs here.called && second.left.isEmpty then
        return optionsOf (first.given ++ second.given)
      else throw .usage

/-! ## Values of the configuration -/

def trueWords : List String := ["1", "true", "t", "yes", "y", "on"]

def falseWords : List String := ["0", "false", "f", "no", "n", "off"]

/-- The truth value that a value holds, if it holds one. -/
def truthOf (held : Held) : Option Bool :=
  match held.typed, held.value with
  | true, .bool b => some b
  | true, _ => none
  | false, value =>
    let word := String.ofList ((Text.trim value.display).map Char.toLower)
    if trueWords.contains word then some true
    else if falseWords.contains word then some false
    else none

/-- The text that a value holds, if it holds one. -/
def textOf (held : Held) : Option Text :=
  match held.value with
  | .str text => some text
  | _ => none

/-- The items of a list of texts. -/
def textItems : Value → Option (List Text)
  | .list items => items.mapM fun
    | .str text => some text
    | _ => none
  | _ => none

/-- The words that a value holds: those of a line or the items of a list. -/
def wordsOf (held : Held) : Option (List Text) :=
  match held.typed, held.value with
  | false, .str line => (Text.shellWords line).toOption
  | _, value => textItems value

/-- The rows that a value holds, without empty ones. -/
def rowsOf (held : Held) : Option (List Text) :=
  match held.typed, held.value with
  | false, .str text =>
    some (((Text.splitOn '\n' text).map Text.trim).filter fun row => !row.isEmpty)
  | _, value => textItems value

/-- What a value of the configuration holds, or nothing where it is absent. -/
def heldFor {α : Type} (name : String) (meaning : Held → Option (List α)) (held : Held.Table) :
    Except Failure (List α) :=
  match held.get? name.toList with
  | none => .ok []
  | some found =>
    match meaning found with
    | some items => .ok items
    | none => .error .usage

/-- The values for scheme files. -/
def iniValues (held : Held.Table) : IniValues where
  strict := ((held.get? "exectest_strict".toList).map truthOf).getD (some false)
  program := ((held.get? "exectest_program".toList).map textOf).getD (some [])

/-- The entry that an option puts before those of the configuration file. -/
def overrideOf (given : Role × Option Text) : Option Text :=
  match given.1.meaning with
  | .override => given.2
  | .overrideBy entry => some entry.toList
  | _ => none

/-- The configuration with the entries that options put before its own. -/
def withOverrides (given : List (Role × Option Text)) (held : Held.Table) :
    Except Failure Held.Table :=
  (given.filterMap overrideOf).foldlM (fun held entry =>
    match Text.cutAt '=' entry with
    | (name, some value) => .ok (held.put name { value := .str value })
    | (_, none) => .error .usage) held

/-! ## The place of the configuration -/

/-- The text with `$name` and `${name}` replaced by the values of variables. -/
def expandVariables (here : Surroundings) (text : Text) : Text :=
  let isNamePart (c : Char) : Bool := c.isAlphanum || c = '_'
  let value? (name : Text) : Option Text := here.environ.get? name
  Text.sweep (fun c rest =>
    if c ≠ '$' then ([c], 0)
    else
      match rest with
      | '\x7b' :: more =>
        let name := more.takeWhile (· ≠ '\x7d')
        match value? name with
        | some value => if name.length < more.length then (value, name.length + 2) else ([c], 0)
        | none => ([c], 0)
      | _ =>
        let name := rest.takeWhile isNamePart
        match value? name with
        | some value => if name.isEmpty then ([c], 0) else (value, name.length)
        | none => ([c], 0)) 0 [] text

/-- A fault of the layout as a failure. -/
def failureOf : LayoutFault → Failure
  | .usage => .usage
  | .file cause => .file cause
  | .content cause => .content cause
  | .oldSection => .oldSection

/-- The last value of an option, unless it is empty. -/
def lastOf (meaning : Meaning) (reading : Reading Role) : Option Text :=
  ((valuesOf meaning reading.given).getLast?).filter fun value => !value.isEmpty

/-- The root and the configuration that options and operands lead to. -/
def layout (here : Surroundings) (reading : Reading Role) : Except Failure Found := do
  let found ← match lastOf .file reading with
    | some name =>
      let place := placeByNames here.called name
      let held ← (heldAt here.fs place).mapError failureOf
      pure { root := place.dropLast, held := held.getD [] }
    | none => (found here.fs here.called (operandsOf reading)).mapError failureOf
  let root ← match lastOf .root reading with
    | some name =>
      let place := placeByNames here.called (here.expandVariables name)
      if isFolder here.fs place then pure place else throw .usage
    | none => pure found.root
  return { root := root, held := ← withOverrides reading.given found.held }

/-! ## Checks -/

def ownRelease : List Nat := [9, 2]

/-- Check that the session is not older than the configuration asks for. -/
def checkVersion (held : Held.Table) : Except Failure Unit :=
  match held.get? "minversion".toList with
  | none => .ok ()
  | some found =>
    if found.value.isVoid then .ok ()
    else
      match found.value with
      | .str text =>
        match Version.ofText? text with
        | none => .error .noVersion
        | some version => if version.isAfter ownRelease then .error .usage else .ok ()
      | _ => .error .usage

/-- Check the components that are asked for. -/
def checkComponents (requests : List Text) : Except Failure Unit :=
  requests.forM fun request =>
    match excluded? request with
    | some name => if essentialProviders.contains name then .error .usage else .ok ()
    | none => if providers.contains (String.ofList request) then .ok () else .error .noComponent

def wordsVariable : Text := "PYTEST_ADDOPTS".toList

def componentsVariable : Text := "PYTEST_PLUGINS".toList

/-- The components that the environment asks for. -/
def ambientComponents (here : Surroundings) : List Text :=
  match here.environ.get? componentsVariable with
  | some names => if names.isEmpty then [] else Text.splitOn ',' names
  | none => []

/-! ## Starting -/

/-- Words in front of others, after a check that they can be read alone. -/
def inFront (here : Surroundings) (options : List (KnownOption Role)) (more words : List Text) :
    Except Failure (List Text) := do
  let _ ← here.readKnown options more
  return more ++ words

/-- Check what is left once the words and the configuration are known. -/
def checkAll (here : Surroundings) (excluded : List String) (given : List (Role × Option Text))
    (words : List Text) (held : Held.Table) : Except Failure Unit := do
  checkVersion held
  let _ ← heldFor "pythonpath" wordsOf held
  checkComponents (requestedProviders words ++ here.ambientComponents)
  unless (← heldFor "required_plugins" wordsOf held).isEmpty do throw .usage
  unless excluded.contains "warnings" do
    let filters := (← heldFor "filterwarnings" rowsOf held) ++ valuesOf .filter given
    unless filters.all isWarningFilter do throw .usage

/-- Configure a session that is called with words. -/
def start (here : Surroundings) (words : List Text) : Except Failure Configuration := do
  let excluded := (requestedProviders words).filterMap excluded?
  if excluded.any essentialProviders.contains then throw .usage
  let options := optionsWithout excluded
  let words ← match (here.environ.get? wordsVariable).filter fun line => !line.isEmpty with
    | some line => do
      here.inFront options (← (Text.shellWords line).mapError .words) words
    | none => pure words
  let found ← here.layout (← here.readKnown options words)
  let words ← here.inFront options (← heldFor "addopts" wordsOf found.held) words
  let known ← here.readKnown options words
  here.checkAll excluded known.given words found.held
  let chosen ← here.readFinally options words
  let _ ← heldFor "testpaths" wordsOf found.held
  configure here.environ chosen (iniValues found.held) (Path.ofNames here.called)
    (Path.ofNames found.root)

end Surroundings

end SchemeCheck.Session

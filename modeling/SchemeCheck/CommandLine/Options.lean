import SchemeCheck.CommandLine.Resemblance

/-!
# SchemeCheck.CommandLine.Options

Reading options from the words of a command line.  Options are long names with
two dashes, whose value follows an equals sign or is the next word, or single
letters with one dash, whose value is the rest of the word or the next one.
Two dashes alone end the options.
-/

namespace SchemeCheck.CommandLine

/-- What the value of an option is. -/
inductive ValueKind where
  | text
  | oneOf (words : List String)
  deriving DecidableEq

def ValueKind.label : ValueKind → String
  | text => "TEXT"
  | oneOf words => "[" ++ "|".intercalate words ++ "]"

/-- An option that a command knows. -/
structure Known where
  /-- The long name, with its dashes. -/
  long : String
  /-- The letter. -/
  letter : Option Char := none
  /-- What its value is, if it takes one. -/
  value : Option ValueKind := none
  /-- The value that it has unless it is given, as far as that is shown. -/
  default : Option String := none
  /-- What it does. -/
  help : String

def Known.takesValue (known : Known) : Bool :=
  known.value.isSome

def Known.names (known : Known) : List Text :=
  (known.letter.toList.map fun c => ['-', c]) ++ [known.long.toList]

/-- What is wrong with the options of a command line. -/
inductive Misuse where
  | unknown (name : Text) (similar : List Text)
  | needsValue (name : Text)
  | takesNoValue (name : Text)
  deriving DecidableEq

def Misuse.message : Misuse → Text
  | unknown name similar =>
    "No such option ".toList ++ Text.quoted name ++ ['.'] ++ suggestion similar
  | needsValue name => "Option ".toList ++ Text.quoted name ++ " requires an argument.".toList
  | takesNoValue name => "Option ".toList ++ Text.quoted name ++ " does not take a value.".toList

/-- What was read from the words of a command line. -/
structure Given where
  /-- The options in order, each under its long name. -/
  options : List (String × Text) := []
  /-- The words that are no options. -/
  words : List Text := []

namespace Given

def add (known : Known) (value : Text) (given : Given) : Given :=
  { given with options := given.options ++ [(known.long, value)] }

def has (long : String) (given : Given) : Bool :=
  given.options.any fun option => option.1 == long

/-- The value that was given last for an option. -/
def last? (long : String) (given : Given) : Option Text :=
  (given.options.reverse.find? fun option => option.1 == long).map Prod.snd

end Given

/-- An option that waits for its value, under the name by which it was given. -/
abbrev Waiting := Option (Text × Known)

/-- Read the letters of a word with one dash. -/
def readLetters (options : List Known) : Text → Given → Except Misuse (Given × Waiting)
  | [], given => .ok (given, none)
  | c :: rest, given =>
    match options.find? (fun known => known.letter = some c) with
    | none => .error (.unknown ['-', c] [])
    | some known =>
      if known.takesValue then
        if rest.isEmpty then .ok (given, some (['-', c], known))
        else .ok (given.add known rest, none)
      else readLetters options rest (given.add known [])

/-- Read a word that starts with a dash. -/
def readOption (options : List Known) (word : Text) (given : Given) :
    Except Misuse (Given × Waiting) :=
  let (name, value?) := Text.cutAt '=' word
  match options.find? (fun known => known.long.toList = name), value? with
  | some known, some value =>
    if known.takesValue then .ok (given.add known value, none) else .error (.takesNoValue name)
  | some known, none =>
    if known.takesValue then .ok (given, some (name, known))
    else .ok (given.add known [], none)
  | none, _ =>
    if ['-', '-'].isPrefixOf word then
      .error (.unknown name (resembling (options.map fun known => known.long.toList) name))
    else readLetters options (word.drop 1) given

/-- Read the words of a command line, up to the first misuse.  Where options and
other words may not be mixed, the first other word ends the options.  A misuse
leaves the options before it; no other words count then. -/
def readSoFar (options : List Known) (mixed : Bool) :
    Waiting → Given → List Text → Given × Option Misuse
  | some (name, _), given, [] => ({ given with words := [] }, some (.needsValue name))
  | some (_, known), given, value :: rest =>
    readSoFar options mixed none (given.add known value) rest
  | none, given, [] => (given, none)
  | none, given, word :: rest =>
    if word = ['-', '-'] then ({ given with words := given.words ++ rest }, none)
    else if word.head? = some '-' && decide (1 < word.length) then
      match readOption options word given with
      | .error misuse => ({ given with words := [] }, some misuse)
      | .ok (given, waiting) => readSoFar options mixed waiting given rest
    else if mixed then
      readSoFar options mixed none { given with words := given.words ++ [word] } rest
    else ({ given with words := given.words ++ word :: rest }, none)

/-- Read the words of a command line. -/
def readWords (options : List Known) (mixed : Bool) (words : List Text) : Except Misuse Given :=
  match readSoFar options mixed none {} words with
  | (given, none) => .ok given
  | (_, some misuse) => .error misuse

end SchemeCheck.CommandLine

import SchemeCheck.Text.Decimal

/-!
# SchemeCheck.Session.Arguments

Reading the words of a session's command line.  A word that starts with a dash
is an option, unless it is a single dash, looks like a negative number, or has
a blank in it; an option that is known is one in any case.  The value of a long
option follows an equals sign or is the next word; letters with one dash may
stand together, and the rest of such a word is the value of the first letter
that takes one.  After two dashes no word is an option.

Other words are operands.  They may be read together with the options, in which
case only the first row of them is taken and others are left, or in a second
reading of what the first one has left.
-/

namespace SchemeCheck.Session

/-- How many values an option takes. -/
inductive Arity where
  | none
  | one
  | atMostOne
  deriving DecidableEq

/-- An option that a session knows, and what it is good for. -/
structure KnownOption (ρ : Type) where
  names : List String
  arity : Arity
  role : ρ

/-- A value that is attached to the name of an option. -/
structure Attached where
  /-- Whether an equals sign stands before it. -/
  marked : Bool
  value : Text

/-- A word of a command line by its kind. -/
inductive Argument (ρ : Type) where
  | operand (word : Text)
  /-- The two dashes after which no word is an option. -/
  | divider
  | option (option : KnownOption ρ) (long : Bool) (attached : Option Attached)
  /-- An option that is not known. -/
  | stranger (word : Text)

/-- What was read. -/
structure Reading (ρ : Type) where
  /-- The options in order, each with its value if it has one. -/
  given : List (ρ × Option Text) := []
  operands : List Text := []
  /-- The words that belong to nothing. -/
  left : List Text := []

section

variable {ρ : Type}

/-! ## Kinds of words -/

/-- The option with a name. -/
def optionNamed (options : List (KnownOption ρ)) (name : Text) : Option (KnownOption ρ) :=
  options.find? fun option => option.names.contains (String.ofList name)

/-- Whether a word looks like a negative number: digits, or a point and digits
after it, behind a dash.  One line feed may follow. -/
def isNegativeNumber (word : Text) : Bool :=
  let word := if word.getLast? = some '\n' then word.dropLast else word
  match word with
  | '-' :: rest =>
    match Text.cutAt '.' rest with
    | (whole, none) => !whole.isEmpty && whole.all Text.isDecimal
    | (whole, some fraction) =>
      whole.all Text.isDecimal && !fraction.isEmpty && fraction.all Text.isDecimal
  | _ => false

/-- The kind of a word before any divider. -/
def Argument.ofWord (options : List (KnownOption ρ)) (word : Text) : Argument ρ :=
  let long := ['-', '-'].isPrefixOf word
  let known? (name : Text) (attached : Option Attached) : Option (Argument ρ) :=
    (optionNamed options name).map fun found => .option found long attached
  let whole := known? word none
  let (name, value?) := Text.cutAt '=' word
  let marked := value?.bind fun value => known? name (some { marked := true, value := value })
  let letter :=
    if long then none else known? (word.take 2) (some { marked := false, value := word.drop 2 })
  if word = ['-', '-'] then .divider
  else if word.head? ≠ some '-' then .operand word
  else
    match whole with
    | some found => found
    | none =>
      if word.length = 1 then .operand word
      else
        match marked <|> letter with
        | some found => found
        | none =>
          if isNegativeNumber word || word.contains ' ' then .operand word else .stranger word

/-- The kinds of the words of a command line. -/
def argumentsOf (options : List (KnownOption ρ)) : List Text → List (Argument ρ)
  | [] => []
  | word :: rest =>
    match Argument.ofWord options word with
    | .divider => .divider :: rest.map .operand
    | argument => argument :: argumentsOf options rest

/-- The word of an argument that is no option. -/
def Argument.word : Argument ρ → Text
  | operand word => word
  | divider => ['-', '-']
  | option _ _ _ => []
  | stranger word => word

def Argument.isPlain : Argument ρ → Bool
  | operand _ => true
  | divider => true
  | _ => false

/-! ## Options and their values -/

/-- What a word with an attached value comes to. -/
structure Cluster (ρ : Type) where
  given : List (ρ × Option Text) := []
  left : List Text := []
  /-- The last letter, if it may take the next word. -/
  waiting : Option (KnownOption ρ) := none

/-- Read the value that is attached to an option.  Behind a letter that takes
no value it holds more letters. -/
def readAttached (options : List (KnownOption ρ)) (long : Bool) (option : KnownOption ρ)
    (marked : Bool) : Text → Option (Cluster ρ)
  | [] =>
    if option.arity = .none then none else some { given := [(option.role, some [])] }
  | c :: rest =>
    if option.arity ≠ .none then some { given := [(option.role, some (c :: rest))] }
    else if long || marked || c = '-' then none
    else
      let first : ρ × Option Text := (option.role, none)
      match optionNamed options ['-', c], rest with
      | none, _ => some { given := [first], left := ['-' :: c :: rest] }
      | some next, [] => some { given := [first], waiting := some next }
      | some next, '=' :: value =>
        (readAttached options long next true value).map fun cluster =>
          { cluster with given := first :: cluster.given }
      | some next, value =>
        (readAttached options long next false value).map fun cluster =>
          { cluster with given := first :: cluster.given }

/-- Let an option take the next word if it takes one.  The answer is its value
and whether the next word is taken. -/
def takeNext (option : KnownOption ρ) (next : Option (Argument ρ)) :
    Option (Option Text × Bool) :=
  match option.arity, next with
  | .none, _ => some (none, false)
  | _, some (.operand word) => some (some word, true)
  | .atMostOne, _ => some (none, false)
  | .one, _ => none

/-- Read an option; `next` is the argument after it.  The answer is what it
comes to and whether the next argument is taken. -/
def readOption (options : List (KnownOption ρ)) (option : KnownOption ρ) (long : Bool)
    (attached : Option Attached) (next : Option (Argument ρ)) :
    Option (Cluster ρ × Bool) := do
  let cluster ← match attached with
    | some attached => readAttached options long option attached.marked attached.value
    | none => pure { waiting := some option }
  match cluster.waiting with
  | none => pure (cluster, false)
  | some last =>
    let (value, taken) ← takeNext last next
    pure ({ cluster with given := cluster.given ++ [(last.role, value)] }, taken)

/-! ## Whole command lines -/

def Argument.isOption (argument : Argument ρ) : Bool :=
  !argument.isPlain

/-- Take the operands that stand at the end, behind every option. -/
def Reading.finish (gather pending : Bool) (reading : Reading ρ) (rest : List (Argument ρ)) :
    Reading ρ :=
  let words := rest.map Argument.word
  if !pending then { reading with left := reading.left ++ words }
  else if gather then { reading with operands := reading.operands ++ words.erase ['-', '-'] }
  else
    { reading with left := reading.left ++ words.drop (if words.head? = some ['-', '-'] then 1 else 0) }

/-- Take a row of operands that stands before an option. -/
def Reading.row (gather pending : Bool) (reading : Reading ρ) (row : List Text) : Reading ρ :=
  if gather && pending then { reading with operands := reading.operands ++ row }
  else { reading with left := reading.left ++ row }

/-- Read arguments.  `gather` says whether operands are read, `pending` whether
their row is still to come. -/
def readArguments (options : List (KnownOption ρ)) (gather pending : Bool) (reading : Reading ρ)
    (arguments : List (Argument ρ)) : Option (Reading ρ) :=
  match arguments with
  | [] => some reading
  | .stranger word :: rest =>
    readArguments options gather pending { reading with left := reading.left ++ [word] } rest
  | .option option long attached :: rest => do
    let (cluster, taken) ← readOption options option long attached rest.head?
    let reading : Reading ρ :=
      { reading with
        given := reading.given ++ cluster.given
        left := reading.left ++ cluster.left }
    if taken then readArguments options gather pending reading rest.tail
    else readArguments options gather pending reading rest
  | first :: rest =>
    if rest.any Argument.isOption then
      readArguments options gather false
        (reading.row gather pending (first.word :: (rest.takeWhile Argument.isPlain).map Argument.word))
        (rest.dropWhile Argument.isPlain)
    else some (reading.finish gather pending (first :: rest))
termination_by arguments.length
decreasing_by
  all_goals simp only [List.length_cons, List.length_tail]
  all_goals first
    | omega
    | exact Nat.lt_succ_of_le (List.dropWhile_sublist _).length_le

/-- Read a command line, options and operands together. -/
def readTogether (options : List (KnownOption ρ)) (words : List Text) : Option (Reading ρ) :=
  readArguments options true true {} (argumentsOf options words)

/-- Read a command line in two passes: options, and then what they leave.  The
second pass may find more options, since the divider is gone by then. -/
def readApart (options : List (KnownOption ρ)) (words : List Text) :
    Option (Reading ρ × Reading ρ) := do
  let first ← readArguments options false true {} (argumentsOf options words)
  let second ← readTogether options first.left
  return (first, second)

end

end SchemeCheck.Session

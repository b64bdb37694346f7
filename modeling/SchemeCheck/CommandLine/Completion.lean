import SchemeCheck.CommandLine.Request
import SchemeCheck.CommandLine.CompletionScript
import SchemeCheck.Text.Abridged
import SchemeCheck.Text.Decimal
import SchemeCheck.Text.ShellWords

/-!
# SchemeCheck.CommandLine.Completion

Completing a command line that is being written.  A shell asks by a variable of
the environment, and tells in two more what has been written so far and where
the reader is.  The answer is a list of proposals in the form that the shell
reads, or the script by which the shell learns to ask.
-/

namespace SchemeCheck.CommandLine

/-! ## Proposals -/

/-- What a proposal is. -/
inductive ProposalKind where
  | plain
  /-- The name of a file, which the shell itself completes. -/
  | file
  deriving DecidableEq

/-- How a kind of proposals is written. -/
def ProposalKind.text : ProposalKind → Text
  | plain => "plain".toList
  | file => "file".toList

/-- A proposal. -/
structure Proposal where
  kind : ProposalKind := .plain
  value : Text
  help : Text := []
  deriving DecidableEq

/-- How many characters the help of a command may have. -/
def shortHelpSize : Nat := 45

/-- Where in a command line the reader is. -/
structure Spot where
  /-- The command whose words are written, none before it is told. -/
  command : Option Command
  usage : Usage
  given : Given

/-- The spot behind the words of a command, misuses aside. -/
def Spot.ofCommand (command : Command) (words : List Text) : Spot :=
  let usage := command.usage
  { command := some command, usage := usage, given := (readSoFar usage.options true none {} words).1 }

/-- The spot behind the words of the whole command line. -/
def Spot.ofWords (words : List Text) : Spot :=
  let given := (readSoFar groupUsage.options false none {} words).1
  let top : Spot := { command := none, usage := groupUsage, given := given }
  match given.words with
  | [] => top
  | name :: rest =>
    match Command.all.lookup (String.ofList name) with
    | some command => Spot.ofCommand command rest
    | none => top

/-- The options at a spot that start like the word being written. -/
def Spot.options (spot : Spot) (start : Text) : List Proposal :=
  if (start.head?.map Char.isAlphanum).getD true then []
  else
    (spot.usage.options.filter fun known => !spot.given.has known.long).flatMap fun known =>
      (known.names.filter fun name => start.isPrefixOf name).map fun name =>
        { value := name, help := known.help.toList }

/-- The commands that start like the word being written. -/
def commandProposals (start : Text) : List Proposal :=
  (Command.all.filter fun entry => start.isPrefixOf entry.1.toList).map fun (name, command) =>
    { value := name.toList, help := Text.abridged shortHelpSize command.usage.summary.toList }

/-- The values of an option that start like the word being written. -/
def ValueKind.proposals (start : Text) : ValueKind → List Proposal
  | text => []
  | oneOf words =>
    (words.filter fun word => start.isPrefixOf word.toList).map fun word =>
      { value := word.toList }

/-- The values of an operand that start like the word being written. -/
def Operand.proposals (start : Text) : Operand → List Proposal
  | text _ => []
  | file _ => [{ kind := .file, value := start }]

def startsOption (word : Text) : Bool :=
  word.head? = some '-'

/-- The option whose value is being written: the one that the last word names. -/
def Spot.waiting? (spot : Spot) (words : List Text) : Option Known :=
  spot.usage.options.find? fun known =>
    known.takesValue && (words.getLast?.map known.names.contains).getD false

/-- The proposals at a spot behind some words. -/
def Spot.proposals (spot : Spot) (words : List Text) (start : Text) : List Proposal :=
  let own := (if spot.command.isNone then commandProposals start else []) ++ spot.options start
  if !words.contains ['-', '-'] && startsOption start then own
  else
    match spot.waiting? words with
    | some known => (known.value.map fun kind => kind.proposals start).getD []
    | none =>
      match spot.usage.arguments[spot.given.words.length]? with
      | some operand => operand.proposals start
      | none => own

/-- The word being written, and the words before it, with an option apart from
the value that is joined to it. -/
def splitStart (words : List Text) (start : Text) : List Text × Text :=
  if start = ['='] then (words, [])
  else
    match Text.cutAt '=' start with
    | (name, some value) => if startsOption start then (words ++ [name], value) else (words, start)
    | (_, none) => (words, start)

/-- The proposals for the word `start` behind some words. -/
def proposals (words : List Text) (start : Text) : List Proposal :=
  let (before, start) := splitStart words start
  (Spot.ofWords words).proposals before start

/-! ## Shells -/

/-- A proposal in the form that a shell reads. -/
def Shell.written (proposal : Proposal) : Shell → Text
  | bash => proposal.kind.text ++ ',' :: proposal.value
  | zsh =>
    if proposal.help.isEmpty then
      Text.joinWith ['\n'] [proposal.kind.text, proposal.value, ['_']]
    else
      Text.joinWith ['\n']
        [proposal.kind.text, Text.replaceAll [':'] ['\\', ':'] proposal.value, proposal.help]
  | fish =>
    proposal.kind.text ++ ',' :: (proposal.value ++
      (if proposal.help.isEmpty then [] else '\t' :: proposal.help))

/-- Why a shell gets no answer. -/
inductive CompletionFault where
  /-- A variable is missing. -/
  | missing
  /-- The number of the word being written is none. -/
  | notNumber (text : Text)
  /-- The word being written is blank. -/
  | noWord
  deriving DecidableEq

/-- The message about a number that is none. -/
def notNumberMessage (text : Text) : Text :=
  "invalid literal for int() with base 10: ".toList ++ Text.quoted text

/-- A variable that must be there. -/
def variableOf (ambient : Table Text Text) (name : String) : Except CompletionFault Text :=
  match ambient.get? name.toList with
  | some value => .ok value
  | none => .error .missing

/-- The place of a number in a list: a negative one counts from the end. -/
def placeIn (size : Nat) (n : Int) : Int :=
  if n < 0 then n + size else n

/-- The words before the one being written, and that one, where the shell
counts the words. -/
def countedWords (ambient : Table Text Text) : Except CompletionFault (List Text × Text) := do
  let words := Text.shellWordsSoFar (← variableOf ambient "COMP_WORDS")
  let count ← variableOf ambient "COMP_CWORD"
  match Text.wholeNumber? count with
  | none => throw (.notNumber count)
  | some n =>
    let place := placeIn words.length n
    let start := if 0 ≤ place then (words[place.toNat]?).getD [] else []
    return ((words.take place.toNat).drop 1, start)

/-- The same where the shell gives the word itself. -/
def givenWords (ambient : Table Text Text) : Except CompletionFault (List Text × Text) := do
  let words := (Text.shellWordsSoFar (← variableOf ambient "COMP_WORDS")).drop 1
  let start ← variableOf ambient "COMP_CWORD"
  if start.isEmpty then return (words, start)
  else
    match Text.shellWordsSoFar start with
    | [] => throw .noWord
    | start :: _ =>
      if !start.isEmpty && words.getLast? = some start then return (words.dropLast, start)
      else return (words, start)

/-- The answer to a shell: its lines. -/
def Shell.complete (ambient : Table Text Text) (shell : Shell) :
    Except CompletionFault Text := do
  let (words, start) ← if shell = .fish then givenWords ambient else countedWords ambient
  return Text.joinWith ['\n'] ((proposals words start).map fun proposal => shell.written proposal)

/-! ## Questions -/

def askVariable : Text := "_CLI_COMPLETE".toList

/-- What a shell asks for. -/
structure Question where
  /-- The name of the shell. -/
  shell : Text
  wanted : Text
  deriving DecidableEq

/-- The question in the environment: an empty one is none. -/
def Question.ofAmbient? (ambient : Table Text Text) : Option Question :=
  match ambient.get? askVariable with
  | none | some [] => none
  | some question =>
    let (shell, wanted) := Text.cutAt '_' question
    some { shell := shell, wanted := wanted.getD [] }

/-- The answer to a question: what is printed, or none if the question is not
understood. -/
def Question.answer (ambient : Table Text Text) (question : Question) :
    Except CompletionFault (Option Text) :=
  match Shell.all.lookup (String.ofList question.shell), String.ofList question.wanted with
  | some shell, "source" => .ok (some (shell.script ++ ['\n']))
  | some shell, "complete" => (shell.complete ambient).map fun text => some (text ++ ['\n'])
  | _, _ => .ok none

end SchemeCheck.CommandLine

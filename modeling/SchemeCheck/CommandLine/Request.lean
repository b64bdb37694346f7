import SchemeCheck.CommandLine.Commands
import SchemeCheck.FileSystem.Basic
import SchemeCheck.Placeholder
import SchemeCheck.Scheme.Listing

/-!
# SchemeCheck.CommandLine.Request

From the words of a command line to what they ask for.
-/

namespace SchemeCheck.CommandLine

/-- What a command line asks for. -/
inductive Request where
  /-- To print the schema of plans. -/
  | schema
  /-- To print the plan of a scheme file. -/
  | parse (root : Text) (format : Scheme.Format) (scheme : Path)
  /-- To run a program on a scheme file. -/
  | run (strict : Bool) (program : Text) (scheme : Path)

/-- What is wrong with a command line. -/
inductive Fault where
  | misuse (misuse : Misuse)
  | noCommand
  | unknownCommand (name : Text)
  | format (value : Text)
  | missing (operand : String)
  | noFile (name : Text)
  | directory (name : Text)
  | extra (words : List Text)

def Fault.message : Fault → Text
  | misuse cause => cause.message
  | noCommand => "Missing command.".toList
  | unknownCommand name =>
    "No such command ".toList ++ Text.quoted name ++ ['.'] ++
      suggestion (resembling (Command.all.map fun entry => entry.1.toList) name)
  | format value =>
    "Invalid value for '-f' / '--format': ".toList ++ Text.quoted value ++ " is not one of ".toList ++
      Text.joinWith ", ".toList (Scheme.Format.all.map fun entry => Text.quoted entry.1) ++ ['.']
  | missing operand => "Missing argument '".toList ++ operand.toList ++ "'.".toList
  | noFile name => invalidFile name " does not exist."
  | directory name => invalidFile name " is a directory."
  | extra words =>
    (if words.length = 1 then "Got unexpected extra argument (".toList
     else "Got unexpected extra arguments (".toList) ++
      Text.joinWith [' '] words ++ [')']
where
  invalidFile (name : Text) (problem : String) : Text :=
    "Invalid value for 'SCHEME': File ".toList ++ Text.quoted name ++ problem.toList

/-- Whether the message about a fault is preceded by the usage of the command. -/
def Fault.showsUsage : Fault → Bool
  | misuse (.needsValue _) => false
  | misuse (.takesNoValue _) => false
  | _ => true

/-- Why a command line asks for nothing that could be done. -/
inductive Refusal where
  /-- It asks for help. -/
  | help (text : String)
  /-- It is empty, which shows the help as well. -/
  | empty
  | fault (usage : Usage) (fault : Fault)

def Refusal.text : Refusal → Text
  | help text => text.toList
  | empty => groupHelp.toList
  | fault usage cause =>
    (if cause.showsUsage then usage.hint.toList else []) ++
      "Error: ".toList ++ cause.message ++ ['\n']

/-- The path of an existing file, as an operand. -/
def fileOperand (fs : FileSystem) (cwd : Place) (name : Text) : Except Fault Path :=
  match fs.locate cwd name with
  | .error _ => .error (.noFile name)
  | .ok place =>
    if fs.isDirectory place then .error (.directory name) else .ok (Path.ofText name)

/-- Take the next operand. -/
def operand (name : String) : List Text → Except Fault (Text × List Text)
  | [] => .error (.missing name)
  | word :: rest => .ok (word, rest)

/-- Refuse words that are left over. -/
def noMore : List Text → Except Fault Unit
  | [] => .ok ()
  | words => .error (.extra words)

/-- The request of a command with its options and operands. -/
def Command.request (fs : FileSystem) (cwd : Place) (given : Given) :
    Command → Except Fault Request
  | schema => do
    noMore given.words
    return .schema
  | parse => do
    let name := (given.last? "--format").getD "yaml".toList
    let format ←
      match Scheme.Format.all.find? (fun entry => decide (entry.1 = name)) with
      | some (_, format) => pure format
      | none => throw (.format name)
    let (scheme, rest) ← operand "SCHEME" given.words
    let scheme ← fileOperand fs cwd scheme
    noMore rest
    return .parse ((given.last? "--root").getD (Placeholder.token Placeholder.rootName)) format
      scheme
  | run => do
    let (program, rest) ← operand "PROGRAM" given.words
    let (scheme, rest) ← operand "SCHEME" rest
    let scheme ← fileOperand fs cwd scheme
    noMore rest
    return .run (given.has "--strict") program scheme

/-- The request of a command followed by words. -/
def Command.read (fs : FileSystem) (cwd : Place) (words : List Text) (command : Command) :
    Except Refusal Request :=
  let usage := command.usage
  match readWords usage.options true words with
  | .error misuse => .error (.fault usage (.misuse misuse))
  | .ok given =>
    if given.has helpOption.long then .error (.help usage.help)
    else (command.request fs cwd given).mapError (.fault usage)

/-- Read the options of the program itself; what follows them is left. -/
def readGroup (words : List Text) : Except Refusal (List Text) :=
  match readWords groupUsage.options false words with
  | .error misuse => .error (.fault groupUsage (.misuse misuse))
  | .ok given =>
    if given.has helpOption.long then .error (.help groupHelp) else .ok given.words

/-- Whether a word that names no command is read once more as an option. -/
def looksLikeOption : Text → Bool
  | [] => false
  | c :: _ => !c.isAlphanum

/-- What a command line asks for. -/
def read (fs : FileSystem) (cwd : Place) (words : List Text) : Except Refusal Request := do
  if words.isEmpty then throw .empty
  match ← readGroup words with
  | [] => throw (.fault groupUsage .noCommand)
  | name :: rest =>
    match Command.all.find? (fun entry => decide (entry.1.toList = name)) with
    | some (_, command) => command.read fs cwd rest
    | none => do
      if looksLikeOption name then
        let _ ← readGroup (name :: rest)
      throw (.fault groupUsage (.unknownCommand name))

end SchemeCheck.CommandLine

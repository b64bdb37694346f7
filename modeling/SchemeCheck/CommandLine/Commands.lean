import SchemeCheck.CommandLine.Options

/-!
# SchemeCheck.CommandLine.Commands

The commands of the command line: how each is used, its options and its help.
-/

namespace SchemeCheck.CommandLine

/-- What an operand of a command is, and what it is called. -/
inductive Operand where
  | text (name : String)
  | file (name : String)
  deriving DecidableEq

/-- How a command is used. -/
structure Usage where
  /-- The words that call it. -/
  path : String
  /-- What follows them. -/
  operands : String
  /-- What it does. -/
  summary : String
  options : List Known
  arguments : List Operand := []

/-- The option that every command has. -/
def helpOption : Known where
  long := "--help"
  help := "Show this message and exit."

/-- How the program itself is used. -/
def groupUsage : Usage where
  path := "cli"
  operands := "[OPTIONS] COMMAND [ARGS]..."
  summary := "Command-line utilities for pytest-exectest schemes."
  options := [helpOption]

/-- The commands. -/
inductive Command where
  | parse
  | run
  | schema
  deriving DecidableEq

def Command.all : List (String × Command) :=
  [("parse", parse), ("run", run), ("schema", schema)]

def Command.usage : Command → Usage
  | parse =>
    { path := "cli parse"
      operands := "[OPTIONS] SCHEME"
      summary := "Interpret a scheme file and print the resulting test plan."
      options :=
        [ { long := "--root"
            letter := some 'r'
            value := some .text
            default := some "\x7bdir\x7d"
            help := "Fixture root substituted for placeholders." },
          { long := "--format"
            letter := some 'f'
            value := some (.oneOf ["yaml", "json"])
            default := some "yaml"
            help := "Output format." },
          helpOption ]
      arguments := [.file "SCHEME"] }
  | run =>
    { path := "cli run"
      operands := "[OPTIONS] PROGRAM SCHEME"
      summary := "Run a scheme file against a program in a temporary directory."
      options :=
        [ { long := "--strict"
            help := "Warn about unknown directives and repeated declarations." },
          helpOption ]
      arguments := [.text "PROGRAM", .file "SCHEME"] }
  | schema =>
    { path := "cli schema"
      operands := "[OPTIONS]"
      summary := "Print the JSON Schema of a parsed test plan to standard output."
      options := [helpOption] }

/-! ## Help -/

/-- The line that shows how a command is called. -/
def Usage.line (usage : Usage) : String :=
  "Usage: " ++ usage.path ++ " " ++ usage.operands ++ "\n"

/-- How an option is written in the help. -/
def Known.label (known : Known) : String :=
  (match known.letter with
   | some c => String.ofList ['-', c, ',', ' ']
   | none => "") ++ known.long ++
  (match known.value with
   | some value => " " ++ value.label
   | none => "")

def rowWidth : Nat := 80

/-- The rows of a text and a note behind it, in a column of the given width: the
note has a row of its own where both do not fit into one. -/
def noteRows (width : Nat) (text : String) : Option String → List String
  | none => [text]
  | some note =>
    let row := text ++ "  " ++ note
    if row.length ≤ width then [row] else [text, note]

/-- Rows of two columns under a caption: a label, and a text with a note. -/
def columns (caption : String) (rows : List (String × String × Option String)) : String :=
  let left := (rows.map fun row => row.1.length).foldl max 0 + 2
  let blanks (n : Nat) : String := String.ofList (Text.spaces n)
  let row (entry : String × String × Option String) : List String :=
    let (label, text, note) := entry
    let texts := noteRows (rowWidth - left - 2) text note
    (texts.zip (label :: List.replicate texts.length "")).map fun (text, label) =>
      "  " ++ label ++ blanks (left - label.length) ++ text ++ "\n"
  "\n" ++ caption ++ ":\n" ++ String.join (rows.flatMap row)

/-- The note about what an option is unless it is given. -/
def Known.note (known : Known) : Option String :=
  known.default.map fun value => "[default: " ++ value ++ "]"

def Usage.help (usage : Usage) : String :=
  usage.line ++ "\n  " ++ usage.summary ++ "\n" ++
    columns "Options" (usage.options.map fun known => (known.label, known.help, known.note))

def groupHelp : String :=
  groupUsage.help ++
    columns "Commands" (Command.all.map fun (name, command) => (name, command.usage.summary, none))

/-- What precedes the message about a wrong use of a command. -/
def Usage.hint (usage : Usage) : String :=
  usage.line ++ "Try '" ++ usage.path ++ " --help' for help.\n\n"

end SchemeCheck.CommandLine

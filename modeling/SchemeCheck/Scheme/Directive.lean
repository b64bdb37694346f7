import SchemeCheck.Text.Basic

/-!
# SchemeCheck.Scheme.Directive

The lines of a scheme.  A line that starts with the mark of a directive is
that directive, the marks being tried in a fixed order; any other line that
starts with `--` is an unknown directive; every other line is payload of the
open block.
-/

namespace SchemeCheck.Scheme

/-- The block that receives payload lines. -/
inductive Block where
  | none
  | file
  | stdout
  | stderr
  | stdin
  deriving DecidableEq

def Block.name : Block → Text
  | .none => "none".toList
  | .file => "file".toList
  | .stdout => "stdout".toList
  | .stderr => "stderr".toList
  | .stdin => "stdin".toList

def Block.all : List Block := [.none, .file, .stdout, .stderr, .stdin]

/-- A directive. -/
inductive Directive where
  /-- Opens the block of expected standard error. -/
  | stderr
  /-- Opens the block of expected standard output. -/
  | stdout
  /-- Opens the block of a fixture file. -/
  | file
  /-- Opens the block of standard input. -/
  | stdin
  /-- Sets the expected return code. -/
  | returnCode
  /-- Adds one program argument. -/
  | arg
  /-- Adds one environment entry. -/
  | env
  deriving DecidableEq

namespace Directive

/-- The directives in the order in which their marks are tried. -/
def all : List Directive := [.stderr, .stdout, .file, .stdin, .returnCode, .arg, .env]

def mark : Directive → Text
  | .stderr => "--stderr".toList
  | .stdout => "--stdout".toList
  | .file => "--file:".toList
  | .stdin => "--stdin".toList
  | .returnCode => "--return-code:".toList
  | .arg => "--arg:".toList
  | .env => "--env:".toList

end Directive

/-- The mark that all directives share. -/
def directiveMark : Text := "--".toList

/-- What a line of a scheme is. -/
inductive Line where
  /-- A directive and the text after its mark. -/
  | directive (directive : Directive) (value : Text)
  /-- A line with the mark of directives that no directive knows. -/
  | unknown
  /-- A line of the open block. -/
  | payload
  deriving DecidableEq

/-- The first of some directives whose mark the line starts with. -/
def firstDirective? (line : Text) : List Directive → Option Line
  | [] => .none
  | d :: rest =>
    match Text.stripFront? d.mark line with
    | some value => some (.directive d value)
    | .none => firstDirective? line rest

/-- Classify a line. -/
def classify (line : Text) : Line :=
  match firstDirective? line Directive.all with
  | some found => found
  | .none => if directiveMark.isPrefixOf line then .unknown else .payload

end SchemeCheck.Scheme

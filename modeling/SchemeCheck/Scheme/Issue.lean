import SchemeCheck.Diagnostic
import SchemeCheck.Scheme.Directive

/-!
# SchemeCheck.Scheme.Issue

What can be wrong with the lines of a scheme.  A fault makes the scheme
unusable; a remark is about suspicious but valid content and is only made in
strict mode.  Both carry their line, and their wording is decided here.
-/

namespace SchemeCheck.Scheme

/-- Why a line makes the scheme unusable. -/
inductive Fault where
  /-- The line is longer than the limit. -/
  | overlong (limit : Int)
  /-- The return code is no integer. -/
  | returnCode (value : Text)
  /-- The environment entry is not `KEY=VALUE`. -/
  | envEntry (entry : Text)
  deriving DecidableEq

def Fault.message : Fault → Text
  | .overlong limit => "Line is longer than ".toList ++ Text.ofInt limit ++ " characters".toList
  | .returnCode value =>
    "Failed to convert return code ".toList ++ Text.quoted value ++ " to int".toList
  | .envEntry entry =>
    "Malformed env entry ".toList ++ Text.quoted entry ++ ", expected KEY=VALUE".toList

/-- A fault with the line it is about. -/
structure LineFault where
  fault : Fault
  /-- The line, or as much of it as is shown. -/
  line : Text
  lineNum : Int
  filename : Option Text
  /-- The block that was open at the line, if lines had been read by then. -/
  block : Option Block
  deriving DecidableEq

def LineFault.context (fault : LineFault) : Diagnostic.Context :=
  Diagnostic.atLine fault.line (some fault.lineNum) fault.filename (fault.block.map Block.name)

def LineFault.text (fault : LineFault) : Text :=
  Diagnostic.format fault.fault.message (some fault.context)

/-- What is suspicious about a scheme. -/
inductive Remark where
  | unknownDirective (line : Text)
  | repeatedFile (name : Text)
  | repeatedReturnCode
  /-- A remark in the caller's own words. -/
  | other (message : Text)
  deriving DecidableEq

def Remark.message : Remark → Text
  | .unknownDirective line => "Unknown directive ".toList ++ Text.quoted line ++ " is ignored".toList
  | .repeatedFile name => "File ".toList ++ Text.quoted name ++ " is declared more than once".toList
  | .repeatedReturnCode => "Return code is declared more than once".toList
  | .other message => message

/-- A remark with the line it is about. -/
structure Warning where
  remark : Remark
  lineNum : Int
  filename : Option Text
  deriving DecidableEq

def Warning.text (warning : Warning) : Text :=
  Diagnostic.format warning.remark.message
    (some { filename := warning.filename, lineNum := some (.whole warning.lineNum) })

end SchemeCheck.Scheme

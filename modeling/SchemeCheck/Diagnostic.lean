import SchemeCheck.Text.Blank
import SchemeCheck.Text.Breaks
import SchemeCheck.Yaml.Writer

/-!
# SchemeCheck.Diagnostic

Where a message points to, and how that is shown below the message: a line
that names the scheme file and the line, a YAML snippet of the element in
question, and the text of the whole scheme.
-/

namespace SchemeCheck.Diagnostic

/-- The number of a line, counted from zero.  A caller may count in other than
whole numbers. -/
inductive LineNumber where
  | whole (n : Int)
  | real (x : Float)

instance : Coe Int LineNumber := ⟨LineNumber.whole⟩

/-- How a line number is shown: counted from one. -/
def LineNumber.shown : LineNumber → Text
  | whole n => Text.ofInt (n + 1)
  | real x => (Binary64.ofBits (x + 1).toBits).text

/-- Where a message points to. -/
structure Context where
  /-- The name of the scheme file. -/
  filename : Option Text := none
  /-- The number of the line, counted from zero. -/
  lineNum : Option LineNumber := none
  /-- The element in question. -/
  element : Option Value := none
  /-- The text of the scheme. -/
  scheme : Option Text := none

/-- What stands for the name of a scheme that comes from no file. -/
def unnamed : Text := "<unicode string>".toList

/-- Indentation, as a text or as a count of blanks. -/
inductive Indent where
  | text (text : Text)
  | width (count : Int)

/-- The indentation as text; a count that is not positive is none. -/
def Indent.chars : Indent → Text
  | .text chars => chars
  | .width count => Text.spaces count.toNat

/-- The line that names the scheme file and, counted from one, the line. -/
def locationText (indent : Text) (context : Context) : Text :=
  let filename := context.filename.getD []
  indent ++ "in \"".toList ++ (if filename.isEmpty then unnamed else filename) ++ ['"'] ++
    (match context.lineNum with
     | some n => ", line ".toList ++ n.shown
     | none => []) ++
    ['\n']

/-- Indent the rows of a text and leave out those that are blank; without
indentation the text stays as it is. -/
def indentRows (indent text : Text) : Text :=
  if indent.isEmpty then text
  else
    Text.joinWith ['\n']
      (((Text.rows text).filter (fun row => !(Text.trim row).isEmpty)).map (indent ++ ·))

/-- The snippet that shows the element, unless there is nothing to show. -/
def snippetText (indent : Text) (context : Context) : Text :=
  match context.element with
  | none => []
  | some element =>
    if element.isVoid then []
    else
      indent ++ " ...\n".toList ++ indentRows indent (Yaml.Node.ofValue element).render ++ ['\n']

/-- The scheme with a caption, unless it is empty. -/
def schemeText (indent : Text) (context : Context) : Text :=
  match context.scheme with
  | none => []
  | some scheme =>
    if scheme.isEmpty then []
    else
      Text.spaces 4 ++ "Test scheme:\n".toList ++
        Text.joinWith ['\n'] ((Text.rows scheme).map (indent ++ ·)) ++ ['\n']

/-- What follows a message that points somewhere. -/
def trailer (context : Context) : Text :=
  '\n' :: (locationText (Text.spaces 4) context ++ snippetText (Text.spaces 8) context ++
    schemeText (Text.spaces 8) context)

/-- The full text of a message. -/
def format (message : Text) : Option Context → Text
  | none => message
  | some context => message ++ trailer context

/-- The element that shows a scheme line and, if it is known, the block that
was open at it. -/
def lineElement (line : Text) (block : Option Text) : Value :=
  let body := (line.reverse.dropWhile (· = '\n')).reverse
  .dict ((.str "line".toList, .str body) ::
    (block.map fun name => (Value.str "block".toList, Value.str name)).toList)

/-- The context of a message about a scheme line. -/
def atLine (line : Text) (lineNum : Option LineNumber) (filename block : Option Text) : Context :=
  { filename := filename, lineNum := lineNum, element := some (lineElement line block) }

end SchemeCheck.Diagnostic

import SchemeCheck.Encoding.Base64
import SchemeCheck.Yaml.Node
import SchemeCheck.Yaml.Scalar

/-!
# SchemeCheck.Yaml.Writer

Writing YAML documents in block style: two blanks of indentation, sequences
inside mappings not indented, lines folded at blanks past column 80, texts
plain where they read back as texts, else in single quotes, else in double
quotes with escapes.

The writer is a fold over the document.  What has been written so far matters
only through the column and two facts about the end of the output, whether it
ends in white space and whether the line holds nothing but indentation; they
decide where blanks and line breaks are put.
-/

namespace SchemeCheck.Yaml

/-! ## Output -/

def width : Nat := 80

/-- What has been written, in reverse, and where the writer stands. -/
structure Output where
  written : Text
  column : Nat
  /-- The output ends in white space. -/
  atSpace : Bool
  /-- The line holds nothing but indentation and indicators that allow more. -/
  atIndent : Bool

namespace Output

def start : Output :=
  { written := [], column := 0, atSpace := true, atIndent := true }

def put (data : Text) (out : Output) : Output :=
  { out with written := data.reverseAux out.written, column := out.column + data.length }

def lineBreak (c : Char) (out : Output) : Output :=
  { written := c :: out.written, column := 0, atSpace := true, atIndent := true }

/-- Move to the given column of a line of its own. -/
def indentTo (indent : Nat) (out : Output) : Output :=
  let out :=
    if !out.atIndent || indent < out.column || (out.column = indent && !out.atSpace) then
      out.lineBreak '\n'
    else out
  if out.column < indent then
    { out.put (Text.spaces (indent - out.column)) with atSpace := true }
  else out

/-- Write an indicator, after a blank if it needs one.  `opens` tells that the
line may go on as if it were still indentation. -/
def indicator (data : Text) (needsSpace : Bool) (out : Output)
    (leavesSpace : Bool) (opens : Bool) : Output :=
  let data := if out.atSpace || !needsSpace then data else ' ' :: data
  { out.put data with atSpace := leavesSpace, atIndent := out.atIndent && opens }

/-- The line does not end in white space and holds more than indentation. -/
def inText (out : Output) : Output :=
  { out with atSpace := false, atIndent := false }

end Output

/-! ## Scalars -/

/-- A run of a scalar: blanks, line breaks, an apostrophe, or other characters. -/
inductive Run where
  | blanks (count : Nat)
  | breaks (chars : Text)
  | apostrophe
  | word (chars : Text)

/-- Put one more character in front of the runs of what follows it. -/
def consRun (c : Char) (runs : List Run) : List Run :=
  if c = ' ' then
    match runs with
    | .blanks n :: rest => .blanks (n + 1) :: rest
    | _ => .blanks 1 :: runs
  else if isBreak c then
    match runs with
    | .breaks chars :: rest => .breaks (c :: chars) :: rest
    | _ => .breaks [c] :: runs
  else if c = '\'' then .apostrophe :: runs
  else
    match runs with
    | .word chars :: rest => .word (c :: chars) :: rest
    | _ => .word [c] :: runs

/-- The runs of a text. -/
def runs (text : Text) : List Run :=
  text.foldr consRun []

/-- Write the runs of a plain scalar.  A single blank past the width becomes a
line break. -/
def putPlainRuns (indent : Nat) (fold : Bool) : List Run → Output → Output
  | [], out => out
  | .blanks n :: rest, out =>
    if n = 1 && width < out.column && fold then
      putPlainRuns indent fold rest (out.indentTo indent).inText
    else putPlainRuns indent fold rest (out.put (Text.spaces n))
  | .breaks chars :: rest, out => putPlainRuns indent fold rest (out.put chars)
  | .apostrophe :: rest, out => putPlainRuns indent fold rest (out.put ['\''])
  | .word chars :: rest, out => putPlainRuns indent fold rest (out.put chars)

def putPlain (indent : Nat) (fold : Bool) (text : Text) (out : Output) : Output :=
  if text.isEmpty then out
  else
    let out := if out.atSpace then out else out.put [' ']
    putPlainRuns indent fold (runs text) out.inText

/-- Write the line breaks of a single-quoted scalar: one line feed more than
it holds, if it starts with one. -/
def putBreaks (chars : Text) (out : Output) : Output :=
  let out := if chars.head? = some '\n' then out.lineBreak '\n' else out
  chars.foldl (fun out c => out.lineBreak c) out

/-- Write the runs of a single-quoted scalar.  `first` tells that nothing of
the scalar has been written yet. -/
def putSingleRuns (indent : Nat) (fold : Bool) : Bool → List Run → Output → Output
  | _, [], out => out
  | first, .blanks n :: rest, out =>
    if n = 1 && width < out.column && fold && !first && !rest.isEmpty then
      putSingleRuns indent fold false rest (out.indentTo indent)
    else putSingleRuns indent fold false rest (out.put (Text.spaces n))
  | _, .breaks chars :: rest, out =>
    putSingleRuns indent fold false rest ((putBreaks chars out).indentTo indent)
  | _, .apostrophe :: rest, out => putSingleRuns indent fold false rest (out.put ['\'', '\''])
  | _, .word chars :: rest, out => putSingleRuns indent fold false rest (out.put chars)

def putSingleQuoted (indent : Nat) (fold : Bool) (text : Text) (out : Output) : Output :=
  (putSingleRuns indent fold true (runs text) (out.indicator ['\''] true false false)).indicator
    ['\''] false false false

/-- The characters that a double-quoted scalar holds as they are. -/
def isBare (c : Char) : Bool :=
  let n := c.toNat
  !(c = '"' || c = '\\' || n = 0x85 || n = 0x2028 || n = 0x2029 || n = 0xFEFF) &&
    ((0x20 ≤ n && n ≤ 0x7E) || (0xA0 ≤ n && n ≤ 0xD7FF) || (0xE000 ≤ n && n ≤ 0xFFFD))

/-- The escapes that have a letter of their own. -/
def letterEscapes : List (Nat × Char) :=
  [(0, '0'), (7, 'a'), (8, 'b'), (9, 't'), (10, 'n'), (11, 'v'), (12, 'f'), (13, 'r'),
    (27, 'e'), (34, '"'), (92, '\\'), (0x85, 'N'), (0xA0, '_'), (0x2028, 'L'), (0x2029, 'P')]

/-- The escape of a character in a double-quoted scalar. -/
def escape (c : Char) : Text :=
  let n := c.toNat
  match letterEscapes.find? (fun entry => decide (entry.1 = n)) with
  | some entry => ['\\', entry.2]
  | none =>
    if n ≤ 0xFF then '\\' :: 'x' :: Text.upperHex 2 n
    else if n ≤ 0xFFFF then '\\' :: 'u' :: Text.upperHex 4 n
    else '\\' :: 'U' :: Text.upperHex 8 n

/-- Fold a double-quoted scalar: a backslash ends the line, and a blank at the
start of the next line is escaped. -/
def foldDouble (indent : Nat) (next : Option Char) (out : Output) : Output :=
  let out := ((out.put ['\\']).indentTo indent).inText
  if next = some ' ' then out.put ['\\'] else out

/-- Write the inside of a double-quoted scalar.  `pending` holds, in reverse
and counted, characters that have been read and not yet written; `before` and
`after` count the characters on either side of the one at hand. -/
def putDoubleChars (indent : Nat) (fold : Bool) :
    (before : Nat) → (after : Nat) → (pending : Text) → (count : Nat) → Text → Output → Output
  | _, _, pending, _, [], out => out.put pending.reverse
  | before, after, pending, count, c :: rest, out =>
    let inner := fold && 0 < before && 1 < after
    if isBare c then
      if inner && (c = ' ' || count = 0) && width < out.column + count then
        let out := foldDouble indent (some c) (out.put pending.reverse)
        putDoubleChars indent fold (before + 1) (after - 1) [c] 1 rest out
      else putDoubleChars indent fold (before + 1) (after - 1) (c :: pending) (count + 1) rest out
    else
      let out := (out.put pending.reverse).put (escape c)
      let out :=
        if inner && width + 1 < out.column then foldDouble indent rest.head? out else out
      putDoubleChars indent fold (before + 1) (after - 1) [] 0 rest out

def putDoubleQuoted (indent : Nat) (fold : Bool) (text : Text) (out : Output) : Output :=
  (putDoubleChars indent fold 0 text.length [] 0 text
    (out.indicator ['"'] true false false)).indicator ['"'] false false false

/-- Write a literal block of lines. -/
def putLiteral (indent : Nat) (lines : List Text) (out : Output) : Output :=
  let out := (out.indicator ['|'] true false false).lineBreak '\n'
  lines.foldl (fun out line => ((out.indentTo indent).put line).lineBreak '\n') out

/-- Write a text in the simplest style that allows it.  A key on one line with
its value is not folded. -/
def putText (indent : Nat) (simpleKey : Bool) (text : Text) (out : Output) : Output :=
  let analysis := analyse text
  if readsAsText text && analysis.allowPlain && !(simpleKey && (analysis.empty || analysis.multiline)) then
    putPlain indent (!simpleKey) text out
  else if analysis.allowSingleQuoted && !(simpleKey && analysis.multiline) then
    putSingleQuoted indent (!simpleKey) text out
  else
    putDoubleQuoted indent (!simpleKey) text out

/-- Write bytes as a tagged literal block, empty bytes as an empty scalar. -/
def putBinary (indent : Nat) (content : List UInt8) (out : Output) : Output :=
  let out := out.indicator "!!binary".toList true false false
  if content.isEmpty then putDoubleQuoted indent true [] out
  else putLiteral indent (Base64.lines content) out

/-! ## Documents -/

/-- Whether a key stands on one line with its value: it is neither empty nor
broken, and with its tag it is shorter than 128 characters. -/
def isSimpleKey (key : Text) : Bool :=
  let analysis := analyse key
  decide (key.length + "!!str".length < 128) && !analysis.empty && !analysis.multiline

/-- The indentation of the scalars at a place. -/
def scalarIndent : Option Nat → Nat
  | none => 2
  | some indent => indent + 2

/-- Write a key that does not fit on one line with its value, or one that does. -/
def putKey (indent : Nat) (key : Text) (out : Output) : Output :=
  let out := out.indentTo indent
  if isSimpleKey key then
    (putText (scalarIndent (some indent)) true key out).indicator [':'] false false false
  else
    let out := putText (scalarIndent (some indent)) false key (out.indicator ['?'] true false true)
    (out.indentTo indent).indicator [':'] true false true

mutual

/-- Write a document.  `inMapping` tells that it is the value of a key;
`indent` is the indentation of what encloses it, none at the root. -/
def putNode (inMapping : Bool) (indent : Option Nat) : Node → Output → Output
  | .plain text, out => putPlain (scalarIndent indent) true text out
  | .text text, out => putText (scalarIndent indent) false text out
  | .binary content, out => putBinary (scalarIndent indent) content out
  | .sequence [], out =>
    (out.indicator ['['] true true false).indicator [']'] false false false
  | .sequence (item :: items), out =>
    let inner :=
      match indent with
      | none => 0
      | some indent => if inMapping && !out.atIndent then indent else indent + 2
    putItems inner (item :: items) out
  | .mapping [], out =>
    (out.indicator ['\x7b'] true true false).indicator ['\x7d'] false false false
  | .mapping (entry :: entries), out =>
    let inner :=
      match indent with
      | none => 0
      | some indent => indent + 2
    putEntries inner (entry :: entries) out

def putItems (indent : Nat) : List Node → Output → Output
  | [], out => out
  | item :: items, out =>
    let out := (out.indentTo indent).indicator ['-'] true false true
    putItems indent items (putNode false (some indent) item out)

def putEntries (indent : Nat) : List (Text × Node) → Output → Output
  | [], out => out
  | (key, node) :: entries, out =>
    putEntries indent entries (putNode true (some indent) node (putKey indent key out))

end

/-- Whether a document is a single scalar written plain, which a reader could
take for the start of a longer one. -/
def Node.isPlainRoot : Node → Bool
  | .plain _ => true
  | .text content => readsAsText content && (analyse content).allowPlain
  | _ => false

/-- The YAML text of a document. -/
def Node.render (node : Node) : Text :=
  let out := (putNode false none node Output.start).indentTo 0
  let out := if node.isPlainRoot then (out.indicator "...".toList true false false).indentTo 0 else out
  out.written.reverse

end SchemeCheck.Yaml

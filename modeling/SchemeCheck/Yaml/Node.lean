import SchemeCheck.Value

/-!
# SchemeCheck.Yaml.Node

The documents that are written as YAML: scalars, sequences, and mappings from
texts.
-/

namespace SchemeCheck.Yaml

/-- A YAML document. -/
inductive Node where
  /-- A scalar that is no text and is always written plain. -/
  | plain (text : Text)
  | text (text : Text)
  | binary (content : List UInt8)
  | sequence (items : List Node)
  | mapping (entries : List (Text × Node))

/-- The plain scalar of a floating-point number: a point is written before the
exponent even where the shortest text has none. -/
def floatText (x : Binary64) : Text :=
  match x with
  | .nan => ".nan".toList
  | .infinite false => ".inf".toList
  | .infinite true => "-.inf".toList
  | _ =>
    let text := x.text
    if text.contains '.' then text
    else text.flatMap fun c => if c = 'e' then ".0e".toList else [c]

/-- What stands for an object of which nothing is known. -/
def objectText : Text := "<runtime object>".toList

/-- Store an entry of a mapping that is being built: the last entry for a key
counts and stands where the key first stood. -/
def putEntry (entries : List (Text × Node)) (key : Text) (node : Node) : List (Text × Node) :=
  if entries.any (fun entry => decide (entry.1 = key)) then
    entries.map fun entry => if entry.1 = key then (key, node) else entry
  else entries ++ [(key, node)]

mutual

/-- The document that shows a value.  The keys of a mapping become texts. -/
def Node.ofValue : Value → Node
  | .null => .plain "null".toList
  | .bool b => .plain (if b then "true".toList else "false".toList)
  | .int i => .plain (Text.ofInt i)
  | .float x => .plain (floatText x)
  | .str text => .text text
  | .bytes content => .binary content
  | .list items => .sequence (nodesOf items)
  | .tuple items => .sequence (nodesOf items)
  | .dict entries => .mapping (entriesOf [] entries)
  | .object => .text objectText

/-- The documents of some values. -/
def nodesOf : List Value → List Node
  | [] => []
  | item :: rest => Node.ofValue item :: nodesOf rest

/-- The entries of a mapping, added to those already there. -/
def entriesOf (done : List (Text × Node)) : List (Value × Value) → List (Text × Node)
  | [] => done
  | (key, value) :: rest => entriesOf (putEntry done key.display (Node.ofValue value)) rest

end

end SchemeCheck.Yaml

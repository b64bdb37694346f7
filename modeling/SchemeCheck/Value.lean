import SchemeCheck.Number.Shortest
import SchemeCheck.Text.Quoted

/-!
# SchemeCheck.Value

Values whose kind is known only when they are met: the element that a
diagnostic shows, the raw fields from which a record is made, the values that
an execution option assigns.
-/

namespace SchemeCheck

/-- A value of any kind. -/
inductive Value where
  | null
  | bool (b : Bool)
  | int (i : Int)
  | float (x : Binary64)
  | str (text : Text)
  | bytes (content : List UInt8)
  | list (items : List Value)
  | tuple (items : List Value)
  | dict (entries : List (Value × Value))
  /-- An object of which nothing is known. -/
  | object

namespace Value

/-- Whether a value counts as absent where a diagnostic shows it: nothing,
zero, false or empty. -/
def isVoid : Value → Bool
  | null => true
  | bool b => !b
  | int i => i = 0
  | float x => x.isZero
  | str text => text.isEmpty
  | bytes content => content.isEmpty
  | list items => items.isEmpty
  | tuple items => items.isEmpty
  | dict entries => entries.isEmpty
  | object => false

/-- One byte inside a quoted literal of bytes. -/
def quotedByte (quote : Char) (b : UInt8) : Text :=
  let c := Char.ofNat b.toNat
  if 128 ≤ b.toNat then '\\' :: 'x' :: Text.lowerHex 2 b.toNat else Text.quotedChar quote c

/-- The quoted literal of bytes. -/
def quotedBytes (content : List UInt8) : Text :=
  let quote := Text.quoteOf (content.map fun b => Char.ofNat b.toNat)
  'b' :: quote :: (content.flatMap (quotedByte quote) ++ [quote])

mutual

/-- The literal of a value. -/
def literal : Value → Text
  | null => "None".toList
  | bool b => if b then "True".toList else "False".toList
  | int i => Text.ofInt i
  | float x => x.text
  | str text => Text.quoted text
  | bytes content => quotedBytes content
  | list items => '[' :: (Text.joinWith ", ".toList (literals items) ++ [']'])
  | tuple [item] => '(' :: (literal item ++ ",)".toList)
  | tuple items => '(' :: (Text.joinWith ", ".toList (literals items) ++ [')'])
  | dict entries => '\x7b' :: (Text.joinWith ", ".toList (entryLiterals entries) ++ ['\x7d'])
  | object => "<object>".toList

/-- The literals of some values. -/
def literals : List Value → List Text
  | [] => []
  | item :: rest => literal item :: literals rest

/-- The literals of the entries of a mapping. -/
def entryLiterals : List (Value × Value) → List Text
  | [] => []
  | (key, value) :: rest => (literal key ++ ": ".toList ++ literal value) :: entryLiterals rest

end

/-- A value as the text that stands for it: a text for itself, anything else
as its literal. -/
def display : Value → Text
  | str text => text
  | value => literal value

/-- The whole number that a value equals, if it equals one. -/
def wholeNumber? : Value → Option Int
  | bool b => some (if b then 1 else 0)
  | int i => some i
  | float x => x.toInt?
  | _ => none

mutual

/-- Whether two values are the same key of a mapping: numbers by what they
equal, everything else by kind and content. -/
def sameKey : Value → Value → Bool
  | null, null => true
  | str s, str t => s = t
  | bytes b, bytes c => b = c
  | tuple xs, tuple ys => sameKeys xs ys
  | x, y =>
    match wholeNumber? x, wholeNumber? y with
    | some i, some j => i = j
    | none, none =>
      match x, y with
      | float a, float b => decide (a = b) && a ≠ .nan
      | _, _ => false
    | _, _ => false

/-- Whether two rows of values are the same, one by one. -/
def sameKeys : List Value → List Value → Bool
  | [], [] => true
  | x :: xs, y :: ys => sameKey x y && sameKeys xs ys
  | _, _ => false

end

/-- The mapping of a list of entries, in which a later value for a key takes
the place of the earlier one. -/
def dictOf (entries : List (Value × Value)) : Value :=
  .dict <| entries.foldl (fun table entry =>
    if table.any (fun old => sameKey old.1 entry.1) then
      table.map fun old => if sameKey old.1 entry.1 then (old.1, entry.2) else old
    else table ++ [entry]) []

end Value

end SchemeCheck

import SchemeCheck.Text.Basic
import SchemeCheck.Value

/-!
# SchemeCheck.Session.Toml

TOML documents.  A document is a row of statements: entries, and headers that
open a table or append one to an array.  Reading goes in two steps: from text to
statements, and from statements to one nested table, where nothing may be
declared twice and inline values are closed to later statements.

Dates and times are recognised, and stand as objects of which nothing more is
known.
-/

namespace SchemeCheck.Session.Toml

/-! ## Statements -/

/-- The way to a value: names from the outermost table. -/
abbrev Key := List Text

/-- A statement of a document. -/
inductive Statement where
  | entry (key : Key) (value : Value)
  | table (key : Key)
  | row (key : Key)

/-- What reads a part of a text: the part's meaning and the text behind it. -/
abbrev Reader (α : Type) := Text → Option (α × Text)

def isSpace (c : Char) : Bool :=
  c = ' ' || c = '\t'

/-- Whether a character may not stand in text of one line. -/
def isControl (c : Char) : Bool :=
  c ≠ '\t' && (decide (c.toNat < 32) || c.toNat = 127)

def skipSpace (text : Text) : Text :=
  text.dropWhile isSpace

/-- The text behind a comment, if one starts it. -/
def skipComment : Text → Option Text
  | '#' :: rest =>
    let (comment, rest) := rest.span (· ≠ '\n')
    if comment.any isControl then none else some rest
  | text => some text

/-- The text behind blanks, line feeds and comments.  Each round reads at least
one character, so the length bounds the rounds. -/
def skipBetween (fuel : Nat) (text : Text) : Option Text :=
  match fuel with
  | 0 => some text
  | fuel + 1 =>
    let behind := text.dropWhile fun c => isSpace c || c = '\n'
    match behind with
    | '#' :: _ => (skipComment behind).bind (skipBetween fuel)
    | _ => some behind

/-! ## Strings -/

/-- What a letter behind a backslash stands for. -/
def escapes : List (Char × Char) :=
  [('b', '\x08'), ('t', '\t'), ('n', '\n'), ('f', '\x0c'), ('r', '\r'), ('"', '"'), ('\\', '\\')]

def hexValue? (c : Char) : Option Nat :=
  if Text.isDigit c then some (c.toNat - 48)
  else if 'a' ≤ c ∧ c ≤ 'f' then some (c.toNat - 87)
  else if 'A' ≤ c ∧ c ≤ 'F' then some (c.toNat - 55)
  else none

/-- The character that `size` hexadecimal digits stand for. -/
def readHexChar (size : Nat) : Reader Char := fun text => do
  guard ((text.take size).length = size)
  let digits ← (text.take size).mapM hexValue?
  let n : Nat := digits.foldl (fun n d => n * 16 + d) 0
  guard n.isValidChar
  return (Char.ofNat n, text.drop size)

/-- What follows a backslash: the characters it stands for. -/
def readEscape (multiline : Bool) : Reader Text := fun text =>
  match text with
  | [] => none
  | c :: rest =>
    if multiline && (isSpace c || c = '\n') then
      let skipped := text.dropWhile isSpace
      match skipped with
      | [] => some ([], [])
      | '\n' :: _ => some ([], skipped.dropWhile fun c => isSpace c || c = '\n')
      | _ => none
    else if c = 'u' then (readHexChar 4 rest).map fun (c, rest) => ([c], rest)
    else if c = 'U' then (readHexChar 8 rest).map fun (c, rest) => ([c], rest)
    else (escapes.lookup c).map fun c => ([c], rest)

/-- Read text between double quotes, up to and with the closing ones.  `done`
is what was read, in reverse; the length bounds the rounds. -/
def readBasic (multiline : Bool) : Nat → Text → Reader Text
  | 0, _, _ => none
  | _, _, [] => none
  | fuel + 1, done, c :: rest =>
    if c = '"' then
      if !multiline then some (done.reverse, rest)
      else
        match rest with
        | '"' :: '"' :: rest => some (done.reverse, rest)
        | _ => readBasic multiline fuel (c :: done) rest
    else if c = '\\' then do
      let (meant, rest) ← readEscape multiline rest
      readBasic multiline fuel (meant.reverse ++ done) rest
    else if isControl c && !(multiline && c = '\n') then none
    else readBasic multiline fuel (c :: done) rest

/-- Read text between single quotes of one line. -/
def readLiteral : Reader Text := fun text =>
  let (body, rest) := text.span (· ≠ '\'')
  match rest with
  | _ :: rest => if body.any isControl then none else some (body, rest)
  | [] => none

/-- Read text between three single quotes. -/
def readLiteralRows : Text → Reader Text
  | done, '\'' :: '\'' :: '\'' :: rest => some (done.reverse, rest)
  | done, c :: rest =>
    if isControl c && c ≠ '\n' then none else readLiteralRows (c :: done) rest
  | _, [] => none

/-- Up to two more quotes behind three closing ones belong to the text. -/
def withExtraQuotes (quote : Char) (body rest : Text) : Text × Text :=
  let extra := min 2 (rest.takeWhile (· = quote)).length
  (body ++ List.replicate extra quote, rest.drop extra)

/-- The text without a line feed in front. -/
def dropFeed : Text → Text
  | '\n' :: rest => rest
  | text => text

/-- Read a string, if one starts the text. -/
def readString : Reader Text := fun text =>
  match text with
  | '"' :: '"' :: '"' :: rest =>
    (readBasic true (rest.length + 1) [] (dropFeed rest)).map fun (body, rest) =>
      withExtraQuotes '"' body rest
  | '\'' :: '\'' :: '\'' :: rest =>
    (readLiteralRows [] (dropFeed rest)).map fun (body, rest) => withExtraQuotes '\'' body rest
  | '"' :: rest => readBasic false (rest.length + 1) [] rest
  | '\'' :: rest => readLiteral rest
  | _ => none

/-! ## Keys -/

/-- Whether a character may stand in a name without quotes. -/
def isBare (c : Char) : Bool :=
  c.isAlphanum || c = '-' || c = '_'

/-- Read one name of a key. -/
def readName : Reader Text := fun text =>
  match text with
  | '\'' :: rest => readLiteral rest
  | '"' :: rest => readBasic false (rest.length + 1) [] rest
  | _ =>
    let (name, rest) := text.span isBare
    if name.isEmpty then none else some (name, rest)

/-- Read a key: names with points between them. -/
def readKey : Nat → Reader Key
  | 0, _ => none
  | fuel + 1, text => do
    let (name, rest) ← readName text
    match skipSpace rest with
    | '.' :: rest =>
      let (names, rest) ← readKey fuel (skipSpace rest)
      return (name :: names, rest)
    | rest => return ([name], rest)

/-! ## Numbers and dates -/

/-- Digits of a class with single underscores between them, from the front. -/
def spanDigits (isDigit : Char → Bool) : Text → Text × Text
  | [] => ([], [])
  | c :: rest =>
    if isDigit c then
      let (digits, rest) := spanDigits isDigit rest
      (c :: digits, rest)
    else
      match c, rest with
      | '_', d :: _ =>
        if isDigit d then spanDigits isDigit rest else ([], c :: rest)
      | _, _ => ([], c :: rest)

/-- Digits from the front, of which there must be one. -/
def readDigits (isDigit : Char → Bool) : Reader Text := fun text =>
  match text with
  | c :: _ => if isDigit c then some (spanDigits isDigit text) else none
  | [] => none

/-- The value of digits in a base. -/
def valueIn (base : Nat) (digits : Text) : Nat :=
  digits.foldl (fun n c => n * base + (hexValue? c).getD 0) 0

/-- Read a whole number in the base that its first characters tell. -/
def readBased : Reader Value := fun text =>
  let based (base : Nat) (isDigit : Char → Bool) (rest : Text) : Option (Value × Text) :=
    (readDigits isDigit rest).map fun (digits, rest) => (.int (valueIn base digits), rest)
  match text with
  | '0' :: 'x' :: rest => based 16 (fun c => (hexValue? c).isSome) rest
  | '0' :: 'o' :: rest => based 8 (fun c => decide ('0' ≤ c) && decide (c ≤ '7')) rest
  | '0' :: 'b' :: rest => based 2 (fun c => c = '0' || c = '1') rest
  | _ => none

/-- The sign in front of a text. -/
def readSign : Text → Bool × Text
  | '-' :: rest => (true, rest)
  | '+' :: rest => (false, rest)
  | rest => (false, rest)

/-- The number with decimal digits and a power of ten. -/
def realOf (negative : Bool) (digits : Text) (power : Int) : Value :=
  let size : Int := digits.length + 400
  let power := max (-size) (min size power)
  let x := Float.ofScientific (Text.digitsValue digits) (decide (power < 0)) power.natAbs
  .float (Binary64.ofBits (if negative then -x else x).toBits)

def readDecimal : Reader Value := fun text => do
  let (negative, body) := readSign text
  let (whole, rest) ← match body with
    | '0' :: rest => some (['0'], rest)
    | _ => readDigits Text.isDigit body
  let (fraction, rest) := match rest with
    | '.' :: more => (readDigits Text.isDigit more).getD ([], rest)
    | _ => ([], rest)
  let exponent : Option (Int × Text) := match rest with
    | mark :: more =>
      if mark = 'e' || mark = 'E' then
        let (below, more) := readSign more
        (readDigits Text.isDigit more).map fun (digits, rest) =>
          (if below then -(Text.digitsValue digits : Int) else Text.digitsValue digits, rest)
      else none
    | [] => none
  match exponent with
  | some (power, rest) =>
    return (realOf negative (whole ++ fraction) (power - fraction.length), rest)
  | none =>
    if fraction.isEmpty then
      let n : Int := Text.digitsValue whole
      return (.int (if negative then -n else n), rest)
    else return (realOf negative (whole ++ fraction) (-(fraction.length : Int)), rest)

/-- Read an infinite number or one that is none. -/
def readSpecial : Reader Value := fun text =>
  let (negative, body) := readSign text
  match body with
  | 'i' :: 'n' :: 'f' :: rest => some (.float (.infinite negative), rest)
  | 'n' :: 'a' :: 'n' :: rest => some (.float .nan, rest)
  | _ => none

/-- Read a number of `size` digits between two bounds. -/
def readCount (size low high : Nat) : Reader Nat := fun text =>
  let digits := text.take size
  let n := Text.digitsValue digits
  if digits.length = size && digits.all Text.isDigit && decide (low ≤ n) && decide (n ≤ high) then
    some (n, text.drop size)
  else none

/-- Read a given character. -/
def readMark (mark : Char) (text : Text) : Option Text :=
  match text with
  | c :: rest => if c = mark then some rest else none
  | [] => none

def readTime (text : Text) : Option Text := do
  let (_, rest) ← readCount 2 0 23 text
  let (_, rest) ← readCount 2 0 59 (← readMark ':' rest)
  let (_, rest) ← readCount 2 0 59 (← readMark ':' rest)
  match rest with
  | '.' :: c :: more => if Text.isDigit c then return more.dropWhile Text.isDigit else return rest
  | _ => return rest

/-- Read the distance of a time from the universal one, if it is told. -/
def readOffset (text : Text) : Text :=
  match text with
  | 'Z' :: rest => rest
  | 'z' :: rest => rest
  | c :: rest =>
    if c = '+' || c = '-' then
      (do
        let (_, rest) ← readCount 2 0 23 rest
        let (_, rest) ← readCount 2 0 59 (← readMark ':' rest)
        return rest : Option Text).getD text
    else text
  | [] => text

def daysIn (year month : Nat) : Nat :=
  let leap := decide (year % 4 = 0) && (decide (year % 100 ≠ 0) || decide (year % 400 = 0))
  if month = 2 then if leap then 29 else 28
  else if [4, 6, 9, 11].contains month then 30 else 31

/-- Read a date, with a time behind it if one is there.  The inner answer is
none for a day that does not exist. -/
def readDate : Reader (Option Value) := fun text => do
  let (year, rest) ← readCount 4 0 9999 text
  let (month, rest) ← readCount 2 1 12 (← readMark '-' rest)
  let (day, rest) ← readCount 2 1 31 (← readMark '-' rest)
  let timed : Option Text := match rest with
    | c :: more => if c = 'T' || c = 't' || c = ' ' then readTime more else none
    | [] => none
  let rest := (timed.map readOffset).getD rest
  let real := decide (year ≠ 0) && decide (day ≤ daysIn year month)
  return (if real then some .object else none, rest)

/-! ## Values -/

/-- The value under a name of a table. -/
def valueUnder? (name : Text) (entries : List (Value × Value)) : Option Value :=
  (entries.find? fun entry => Value.sameKey entry.1 (.str name)).map Prod.snd

/-- Put a value under a name, in its old place if the name is there. -/
def putEntry (name : Text) (value : Value) (entries : List (Value × Value)) :
    List (Value × Value) :=
  if (valueUnder? name entries).isSome then
    entries.map fun entry => if Value.sameKey entry.1 (.str name) then (entry.1, value) else entry
  else entries ++ [(.str name, value)]

/-- Change the table at the end of a way, and make the tables on it that are
missing.  Where `rows` is set an array of tables is entered at its last one. -/
def change (rows : Bool) (f : List (Value × Value) → Option (List (Value × Value))) :
    Key → Value → Option Value
  | [], .dict entries => (f entries).map .dict
  | name :: rest, .dict entries => do
    let below ← match (valueUnder? name entries).getD (.dict []) with
      | .list items =>
        if rows then do
          let last ← items.getLast?
          let changed ← change rows f rest last
          pure (Value.list (items.dropLast ++ [changed]))
        else none
      | below => change rows f rest below
    return .dict (putEntry name below entries)
  | _, _ => none

/-- Add an entry to a table that does not have it. -/
def addEntry (name : Text) (value : Value) (entries : List (Value × Value)) :
    Option (List (Value × Value)) :=
  if (valueUnder? name entries).isSome then none else some (entries ++ [(.str name, value)])

/-- Whether later statements may not reach into a value. -/
def isClosed : Value → Bool
  | .list _ => true
  | .dict _ => true
  | _ => false

/-- Whether a key leads to or into one of some others. -/
def reachesInto (closed : List Key) (key : Key) : Bool :=
  closed.any fun way => way.isPrefixOf key

def readSimple : Reader Value := fun text =>
  match readString text with
  | some (body, rest) => some (.str body, rest)
  | none =>
    match text with
    | '"' :: _ => none
    | '\'' :: _ => none
    | 't' :: 'r' :: 'u' :: 'e' :: rest => some (.bool true, rest)
    | 'f' :: 'a' :: 'l' :: 's' :: 'e' :: rest => some (.bool false, rest)
    | _ =>
      match readDate text with
      | some (found, rest) => found.map fun value => (value, rest)
      | none =>
        match readTime text with
        | some rest => some (.object, rest)
        | none => readBased text <|> readDecimal text <|> readSpecial text

mutual

/-- Read a value.  The fuel bounds how much is read. -/
def readValue (fuel : Nat) (text : Text) : Option (Value × Text) :=
  match fuel with
  | 0 => none
  | fuel + 1 =>
    match text with
    | '[' :: rest => do
      match ← skipBetween rest.length rest with
      | ']' :: rest => return (.list [], rest)
      | rest => readItems fuel [] rest
    | '\x7b' :: rest =>
      match skipSpace rest with
      | '\x7d' :: rest => some (.dict [], rest)
      | rest => readEntries fuel [] (.dict []) rest
    | _ => readSimple text

/-- Read the items of an array, behind those that are `done` in reverse. -/
def readItems (fuel : Nat) (done : List Value) (text : Text) : Option (Value × Text) :=
  match fuel with
  | 0 => none
  | fuel + 1 => do
    let (item, rest) ← readValue fuel text
    let done := item :: done
    match ← skipBetween rest.length rest with
    | ']' :: rest => return (.list done.reverse, rest)
    | ',' :: rest =>
      match ← skipBetween rest.length rest with
      | ']' :: rest => return (.list done.reverse, rest)
      | rest => readItems fuel done rest
    | _ => none

/-- Read the entries of an inline table into `table`; `closed` are the keys
whose values may not be reached into. -/
def readEntries (fuel : Nat) (closed : List Key) (table : Value) (text : Text) :
    Option (Value × Text) :=
  match fuel with
  | 0 => none
  | fuel + 1 => do
    let (key, rest) ← readKey (text.length + 1) text
    let rest ← readMark '=' rest
    let (value, rest) ← readValue fuel (skipSpace rest)
    guard (!reachesInto closed key)
    let name ← key.getLast?
    let table ← change false (addEntry name value) key.dropLast table
    let closed := if isClosed value then key :: closed else closed
    match skipSpace rest with
    | '\x7d' :: rest => return (table, rest)
    | ',' :: rest => readEntries fuel closed table (skipSpace rest)
    | _ => none

end

/-! ## Documents -/

/-- Read a header behind its brackets; `close` must follow it. -/
def readHeader (close : Text) : Reader Key := fun text => do
  let (key, rest) ← readKey (text.length + 1) (skipSpace text)
  let rest ← Text.stripFront? close rest
  return (key, rest)

def readStatement : Reader Statement := fun text =>
  match text with
  | '[' :: '[' :: rest =>
    (readHeader [']', ']'] rest).map fun (key, rest) => (.row key, rest)
  | '[' :: rest => (readHeader [']'] rest).map fun (key, rest) => (.table key, rest)
  | _ => do
    let (key, rest) ← readKey (text.length + 1) text
    let rest ← readMark '=' rest
    let (value, rest) ← readValue (rest.length + 1) (skipSpace rest)
    return (.entry key value, rest)

/-- Read the statements of a document, each on a row of its own. -/
def readStatements : Nat → List Statement → Text → Option (List Statement)
  | 0, _, _ => none
  | fuel + 1, done, text =>
    match skipSpace text with
    | [] => some done.reverse
    | '\n' :: rest => readStatements fuel done rest
    | c :: rest => do
      let (done, rest) ←
        if c = '#' then pure (done, c :: rest)
        else do
          let (statement, rest) ← readStatement (c :: rest)
          pure (statement :: done, rest)
      match ← skipComment (skipSpace rest) with
      | [] => return done.reverse
      | '\n' :: rest => readStatements fuel done rest
      | _ => none

/-- A document as far as it is assembled. -/
structure Document where
  root : Value := .dict []
  /-- The table that entries belong to. -/
  header : Key := []
  /-- The tables that may not be declared again. -/
  declared : List Key := []
  /-- The tables that will be so at the next header. -/
  pending : List Key := []
  /-- The values that may not be reached into. -/
  closed : List Key := []

/-- Take one more statement into a document. -/
def Document.add (document : Document) (statement : Statement) : Option Document :=
  let declared := document.pending ++ document.declared
  match statement with
  | .table key => do
    guard (!declared.contains key && !reachesInto document.closed key)
    let root ← change true some key document.root
    return { document with root := root, header := key, declared := key :: declared, pending := [] }
  | .row key => do
    guard (!reachesInto document.closed key)
    let name ← key.getLast?
    let root ← change true (fun entries =>
      match valueUnder? name entries with
      | some (.list items) => some (putEntry name (.list (items ++ [.dict []])) entries)
      | some _ => none
      | none => some (entries ++ [(.str name, .list [.dict []])])) key.dropLast document.root
    return { root := root
             header := key
             declared := key :: declared.filter (fun other => !key.isPrefixOf other)
             pending := []
             closed := document.closed.filter fun other => !key.isPrefixOf other }
  | .entry key value => do
    let name ← key.getLast?
    let holders := ((List.range key.length).drop 1).map fun size =>
      document.header ++ key.take size
    guard (!holders.any document.declared.contains)
    let way := document.header ++ key.dropLast
    guard (!reachesInto document.closed way)
    let root ← change true (addEntry name value) way document.root
    return { document with
             root := root
             pending := holders ++ document.pending
             closed := if isClosed value then (document.header ++ key) :: document.closed
               else document.closed }

/-- Read a document as one nested table. -/
def read? (text : Text) : Option Value := do
  let text := Text.replaceAll ['\r', '\n'] ['\n'] text
  let statements ← readStatements (text.length + 1) [] text
  let document ← statements.foldlM Document.add {}
  return document.root

end SchemeCheck.Session.Toml

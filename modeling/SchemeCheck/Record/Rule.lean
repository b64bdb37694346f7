import SchemeCheck.Encoding.Utf8
import SchemeCheck.FileSystem.Path
import SchemeCheck.Record.Checked
import SchemeCheck.Table
import SchemeCheck.Text.Blank
import SchemeCheck.Value

/-!
# SchemeCheck.Record.Rule

The rules by which single values are accepted.  They are generous: a text may
be given as its UTF-8 bytes, an integer as a text or as a number without a
fraction, a truth value as one of a few words.
-/

namespace SchemeCheck.Record

/-- A rule that accepts raw values. -/
abbrev Rule (α : Type) := Value → Checked α

/-! ## Text and paths -/

/-- Accept a text, or bytes that are UTF-8. -/
def textRule : Rule Text
  | .str text => .valid text
  | .bytes content =>
    match Encoding.readAll Encoding.Utf8.front content with
    | .ok text => .valid text
    | .error _ => .refuse .textNotUtf8
  | _ => .refuse .notText

/-- Accept a text that is not empty. -/
def nonEmptyTextRule : Rule Text := fun value =>
  (textRule value).andThen fun text =>
    if text.isEmpty then .refuse .textTooShort else .valid text

/-- Accept a text of a form. -/
def textOfFormRule (form : Text → Bool) : Rule Text := fun value =>
  (textRule value).andThen fun text =>
    if form text then .valid text else .refuse .textMalformed

def pathRule : Rule Path
  | .str text => .valid (Path.ofText text)
  | _ => .refuse .notPath

/-! ## Integers -/

/-- The first natural number that 64 bits with a sign cannot hold. -/
def wordLimit : Nat := Nat.pow 2 63

def fitsWord (i : Int) : Bool :=
  -(wordLimit : Int) ≤ i && i < wordLimit

/-- The white space of Unicode. -/
def isWhite (c : Char) : Bool :=
  Text.isBlank c && !(28 ≤ c.toNat && c.toNat ≤ 31)

def maxIntegerDigits : Nat := 4300

/-- Read an integer in its plain form: an optional minus sign and digits,
without needless zeros. -/
def plainInteger (text : Text) : Except Complaint Int :=
  let natural (digits : Text) : Except Complaint Nat :=
    let found := digits.takeWhile Text.isDigit
    if found.head? ≠ some '0' && decide (maxIntegerDigits < found.length) then
      .error .integerTooLarge
    else if found.isEmpty || decide (found.length < digits.length) ||
        (found.head? = some '0' && found ≠ ['0']) then .error .integerMalformed
    else .ok (Text.digitsValue found)
  match text with
  | '-' :: digits => (natural digits).map fun n => -(n : Int)
  | digits => (natural digits).map fun n => (n : Int)

/-- Drop the zeros in front of a number, and the underscores among them; the
last zero stays where no other digit follows.  Nothing else than a digit or a
minus sign may come first. -/
def dropZeros? (text : Text) : Option Text :=
  let leads (c : Char) : Bool := Text.isDigit c || c = '-'
  match text with
  | '0' :: rest =>
    let zeros := '0' :: rest.takeWhile (fun c => c = '0' || c = '_')
    match text.drop zeros.length with
    | [] => some (zeros.drop (zeros.length - 1))
    | '.' :: tail => some (zeros.drop (zeros.length - 1) ++ '.' :: tail)
    | c :: tail => if leads c then some (c :: tail) else none
  | c :: _ => if leads c then some text else none
  | [] => none

/-- Drop a fraction that consists of zeros. -/
def dropZeroFraction (text : Text) : Text :=
  match Text.cutAt '.' text with
  | (whole, some (c :: zeros)) => if (c :: zeros).all (· = '0') then whole else text
  | _ => text

/-- Drop single underscores between characters; a text that uses them in any
other way stays as it is. -/
def dropUnderscores (text : Text) : Text :=
  let parts := Text.splitOn '_' text
  if parts.any List.isEmpty then text else parts.flatten

/-- The plain form of a generously written integer: without white space around
it, a plus sign, needless zeros, a fraction of zeros and single underscores. -/
def plainForm? (text : Text) : Option Text :=
  let text := Text.trimOf isWhite text
  let digits (text : Text) : Option Text :=
    (dropZeros? text).map fun text => dropUnderscores (dropZeroFraction text)
  match text with
  | '+' :: '-' :: _ => none
  | '+' :: rest => digits rest
  | '-' :: rest => (digits rest).map ('-' :: ·)
  | _ => digits text

/-- Read an integer from a text, generously.  One in plain form that has too
many digits is too large; after any tidying it is malformed. -/
def integerOf (text : Text) : Except Complaint Int :=
  match plainInteger text with
  | .ok i => .ok i
  | .error .integerTooLarge => .error .integerTooLarge
  | .error _ =>
    match plainForm? text with
    | none => .error .integerMalformed
    | some text => (plainInteger text).mapError fun _ => .integerMalformed

/-- Accept a number without a fraction that 64 bits can hold. -/
def integerOfFloat (x : Binary64) : Checked Int :=
  match x with
  | .finite _ _ _ =>
    match x.toInt? with
    | none => .refuse .fractional
    | some i => if i.natAbs < wordLimit then .valid i else .refuse .integerTooLarge
  | _ => .refuse .notFinite

/-- Accept an integer that is written as a text. -/
def integerOfText (text : Text) : Checked Int :=
  match integerOf text with
  | .ok i => .valid i
  | .error complaint => .refuse complaint

def integerRule : Rule Int
  | .int i => .valid i
  | .bool b => .valid (if b then 1 else 0)
  | .float x => integerOfFloat x
  | .str text => integerOfText text
  | .bytes content =>
    match Encoding.readAll Encoding.Utf8.front content with
    | .ok text => integerOfText text
    | .error _ => .refuse .integerMalformed
  | _ => .refuse .notInteger

/-- Accept an integer greater than a bound. -/
def integerAboveRule (bound : Int) : Rule Int := fun value =>
  (integerRule value).andThen fun i => if bound < i then .valid i else .refuse .notGreater

/-! ## Truth values -/

def trueWords : List String := ["1", "true", "t", "yes", "y", "on"]

def falseWords : List String := ["0", "false", "f", "no", "n", "off"]

/-- Accept a word for a truth value, in any case. -/
def truthOfText (text : Text) : Checked Bool :=
  let word := String.ofList (text.map Char.toLower)
  if trueWords.contains word then .valid true
  else if falseWords.contains word then .valid false
  else .refuse .truthMalformed

/-- Accept zero and one as truth values. -/
def truthOfInteger (i : Int) : Checked Bool :=
  if i = 0 then .valid false else if i = 1 then .valid true else .refuse .truthMalformed

def truthRule : Rule Bool
  | .bool b => .valid b
  | .int i => if fitsWord i then truthOfInteger i else .refuse .notTruth
  | .float x =>
    match integerOfFloat x with
    | .valid i => truthOfInteger i
    | .invalid _ => .refuse .notTruth
  | .str text => truthOfText text
  | .bytes content =>
    match Encoding.readAll Encoding.Utf8.front content with
    | .ok text => truthOfText text
    | .error _ => .refuse .truthMalformed
  | _ => .refuse .notTruth

/-! ## Lists and tables -/

/-- Accept a list or tuple whose items are accepted; anything else is refused
with `complaint`. -/
def listRule {α : Type} (complaint : Complaint) (item : Rule α) : Rule (List α)
  | .list items | .tuple items =>
    Checked.all (items.zipIdx.map fun entry => (item entry.1).inside (.number entry.2))
  | _ => .refuse complaint

/-- The step to an entry of a table. -/
def stepTo (key : Value) : Step :=
  match key with
  | .bool b => .number (if b then 1 else 0)
  | .int i => if fitsWord i then .number i else .name key.display
  | _ => .name key.display

/-- Accept a table from texts to texts. -/
def tableRule : Rule (Table Text Text)
  | .dict entries =>
    (Checked.all (entries.map fun entry =>
      ((textRule entry.1).inside (.name "[key]".toList)).map Prod.mk
        |>.both (textRule entry.2) |>.inside (stepTo entry.1))).map Table.ofEntries
  | _ => .refuse .notTable

end SchemeCheck.Record

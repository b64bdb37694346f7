import SchemeCheck.Text.Blank

/-!
# SchemeCheck.Session.Version

Version numbers: a release of numbers with points between them, and around it
an epoch, marks of a pre-release, a post-release or a development release, and
a local label.  What is asked of them here is whether a release is new enough.
-/

namespace SchemeCheck.Session

/-- A version. -/
structure Version where
  epoch : Nat := 0
  release : List Nat
  /-- Whether the version comes before its release. -/
  isPre : Bool := false
  isPost : Bool := false
  isDevelopment : Bool := false
  isLocal : Bool := false
  deriving DecidableEq

namespace Version

/-! ## Reading -/

/-- A number in front of a text. -/
def number? (text : Text) : Option (Nat × Text) :=
  let digits := text.takeWhile Text.isDigit
  if digits.isEmpty then none else some (Text.digitsValue digits, text.drop digits.length)

/-- The text without one mark that separates parts in front. -/
def skipMark : Text → Text
  | c :: rest => if c = '-' || c = '_' || c = '.' then rest else c :: rest
  | [] => []

/-- The text behind one of some words and a number that may follow it. -/
def behindWord? (words : List String) (text : Text) : Option Text :=
  (words.findSome? fun word => Text.stripFront? word.toList (skipMark text)).map fun rest =>
    (skipMark rest).dropWhile Text.isDigit

def preWords : List String := ["alpha", "a", "beta", "b", "preview", "pre", "c", "rc"]

def postWords : List String := ["post", "rev", "r"]

/-- The numbers of a release from the front.  The length bounds their count. -/
def releaseOf : Nat → Text → Option (List Nat × Text)
  | 0, _ => none
  | fuel + 1, text => do
    let (n, rest) ← number? text
    match rest with
    | '.' :: more =>
      match releaseOf fuel more with
      | some (ns, rest) => return (n :: ns, rest)
      | none => return ([n], rest)
    | _ => return ([n], rest)

/-- Whether a text is a local label: words of letters and digits with marks
between them. -/
def isLabel (text : Text) : Bool :=
  (Text.splitOn '.' (text.map fun c => if c = '-' || c = '_' then '.' else c)).all fun part =>
    !part.isEmpty && part.all Char.isAlphanum

/-- Read a version. -/
def ofText? (text : Text) : Option Version := do
  let text := (Text.trim text).map Char.toLower
  let text := (Text.stripFront? ['v'] text).getD text
  let (epoch, text) := match number? text with
    | some (n, '!' :: rest) => (n, rest)
    | _ => (0, text)
  let (release, text) ← releaseOf text.length text
  let pre := behindWord? preWords text
  let text := pre.getD text
  let post := (match text with
    | '-' :: rest => (number? rest).map Prod.snd
    | _ => none) <|> behindWord? postWords text
  let text := post.getD text
  let development := behindWord? ["dev"] text
  let text := development.getD text
  let version : Version :=
    { epoch := epoch
      release := release
      isPre := pre.isSome
      isPost := post.isSome
      isDevelopment := development.isSome }
  match text with
  | [] => return version
  | '+' :: label => if isLabel label then return { version with isLocal := true } else none
  | _ => none

/-- A release without zeros at its end. -/
def trimmed (release : List Nat) : List Nat :=
  (release.reverse.dropWhile (· = 0)).reverse

/-- Whether a version comes after a plain release. -/
def isAfter (version : Version) (release : List Nat) : Bool :=
  if version.epoch ≠ 0 then true
  else if trimmed version.release = trimmed release then
    !version.isPre && (version.isPost || (!version.isDevelopment && version.isLocal))
  else decide (trimmed release < trimmed version.release)

end Version

end SchemeCheck.Session

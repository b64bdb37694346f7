/-!
# SchemeCheck.Text.Basic

Text is a list of Unicode scalar values.  Everything the library reads as
declared text (schemes, file names, environment entries) and everything it
writes is of this type; captured program output, which may hold bytes that
are no text, has a type of its own (`SchemeCheck.Capture`).

The operations here are the few that every layer shares: splitting at a
separator, joining with one, rewriting from left to right, and the decimal
and hexadecimal spelling of numbers.  Functions that may meet a very long
line are written over folds or with an accumulator, so that they run in
constant stack.
-/

namespace SchemeCheck

/-- A piece of text, as its characters. -/
abbrev Text := List Char

namespace Text

variable {σ τ : Type}

/-! ## Splitting and joining -/

/-- The pieces between the occurrences of `sep`, as the first piece and the
others.  There is always a first piece, even in the empty list. -/
def pieces [DecidableEq σ] (sep : σ) (xs : List σ) : List σ × List (List σ) :=
  xs.foldr (fun x acc => if x = sep then ([], acc.1 :: acc.2) else (x :: acc.1, acc.2)) ([], [])

/-- The pieces between the occurrences of `sep`, empty ones included. -/
def splitOn [DecidableEq σ] (sep : σ) (xs : List σ) : List (List σ) :=
  (pieces sep xs).1 :: (pieces sep xs).2

/-- What stands before the first `sep` and, if there is one, what stands after it. -/
def cutAt [DecidableEq σ] (sep : σ) (xs : List σ) : List σ × Option (List σ) :=
  let rest := xs.dropWhile (fun x => decide (x ≠ sep))
  (xs.takeWhile (fun x => decide (x ≠ sep)), if rest.isEmpty then none else some (rest.drop 1))

/-- The texts one after another with `sep` between neighbours. -/
def joinWith (sep : List σ) (texts : List (List σ)) : List σ :=
  sep.intercalate texts

/-- `xs` without the front `front`, if it starts with it. -/
def stripFront? [DecidableEq σ] (front xs : List σ) : Option (List σ) :=
  if front.isPrefixOf xs then some (xs.drop front.length) else none

/-! ## Rewriting from left to right -/

/-- Read `xs` from the left.  At an item that is not yet covered, `f` sees the
item and what follows it, and answers what to write and how many of the
following items are covered by that. -/
def sweep (f : σ → List σ → List τ × Nat) : Nat → List τ → List σ → List τ
  | _, written, [] => written.reverse
  | covered + 1, written, _ :: rest => sweep f covered written rest
  | 0, written, x :: rest => sweep f (f x rest).2 ((f x rest).1.reverseAux written) rest

/-- Every occurrence of `old`, found from the left and without overlap,
replaced by `new`.  `old` must not be empty. -/
def replaceAll [DecidableEq σ] (old new xs : List σ) : List σ :=
  sweep (fun x rest => if old.isPrefixOf (x :: rest) then (new, old.length - 1) else ([x], 0))
    0 [] xs

/-! ## Numbers -/

/-- The decimal spelling of a natural number. -/
def ofNat (n : Nat) : Text :=
  Nat.toDigits 10 n

/-- The decimal spelling of an integer, with `-` in front of a negative one. -/
def ofInt (i : Int) : Text :=
  if i < 0 then '-' :: ofNat i.natAbs else ofNat i.natAbs

/-- The text filled up with `fill` in front to at least `width` characters. -/
def padFront (width : Nat) (fill : Char) (text : Text) : Text :=
  List.replicate (width - text.length) fill ++ text

/-- The lower-case hexadecimal spelling of `n` with at least `width` digits. -/
def lowerHex (width n : Nat) : Text :=
  padFront width '0' (Nat.toDigits 16 n)

/-- The upper-case hexadecimal spelling of `n` with at least `width` digits. -/
def upperHex (width n : Nat) : Text :=
  (lowerHex width n).map Char.toUpper

/-- Whether the character is one of the ten decimal digits of ASCII. -/
def isDigit (c : Char) : Bool :=
  decide ('0' ≤ c) && decide (c ≤ '9')

/-- The number that a row of decimal digits spells. -/
def digitsValue (digits : Text) : Nat :=
  digits.foldl (fun n c => n * 10 + (c.toNat - 48)) 0

def spaces (n : Nat) : Text :=
  List.replicate n ' '

end Text

end SchemeCheck

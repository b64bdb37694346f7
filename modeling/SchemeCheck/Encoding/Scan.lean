import SchemeCheck.Capture

/-!
# SchemeCheck.Encoding.Scan

Reading bytes as characters, from the front.  An encoding tells what stands at
the front of bytes: characters, or a run of bytes that are none.  `scan`
repeats that to the end; whether a malformed run ends the reading or is kept
byte by byte is the reader's choice.
-/

namespace SchemeCheck.Encoding

/-- What stands at the front of bytes, of which the first is at hand. -/
inductive Front where
  /-- Characters, written with the first byte and `more` others: one, as a rule. -/
  | text (text : Text) (more : Nat)
  /-- The first byte and `more` others that are no character. -/
  | malformed (more : Nat) (reason : Text)

/-- A character, written with the first byte and `more` others. -/
abbrev Front.char (c : Char) (more : Nat) : Front :=
  .text [c] more

/-- A run of bytes that are no character. -/
structure Malformed where
  /-- How many bytes stand before it. -/
  position : Nat
  run : List UInt8
  reason : Text
  deriving DecidableEq

/-- Read bytes from the front.  `step` tells what stands there, which may depend
on a state that earlier bytes left.  `covered` bytes belong to what was read
last.  `keep` answers for a malformed run what to write for its first bytes, one
item for each; where it keeps none, reading ends. -/
def scan {τ σ : Type} (step : τ → UInt8 → List UInt8 → τ × Front) (char : Char → σ)
    (keep : List UInt8 → List σ) :
    τ → Nat → Nat → List σ → List UInt8 → Except Malformed (List σ)
  | _, _, _, written, [] => .ok written.reverse
  | state, position, covered + 1, written, _ :: rest =>
    scan step char keep state (position + 1) covered written rest
  | state, position, 0, written, b :: rest =>
    match step state b rest with
    | (state, .text text more) =>
      scan step char keep state (position + 1) more ((text.map char).reverse ++ written) rest
    | (state, .malformed more reason) =>
      let run := b :: rest.take more
      let kept := keep run
      if kept.isEmpty then .error { position := position, run := run, reason := reason }
      else
        scan step char keep state (position + 1) (kept.length - 1) (kept.reverse ++ written) rest

/-- The step of an encoding in which no byte changes the meaning of later ones. -/
def stateless (front : UInt8 → List UInt8 → Front) (state : Unit) (b : UInt8)
    (rest : List UInt8) : Unit × Front :=
  (state, front b rest)

/-- Read bytes of which every one belongs to a character. -/
def readAll (front : UInt8 → List UInt8 → Front) (bytes : List UInt8) : Except Malformed Text :=
  scan (stateless front) id (fun _ => []) () 0 0 [] bytes

/-- How many bytes of a malformed run are kept at most. -/
def maxStrayBytes : Nat := 4

/-- The bytes of a malformed run that can be kept: those at its front that
could not be ASCII. -/
def strayBytes (run : List UInt8) : Capture :=
  ((run.take maxStrayBytes).takeWhile (fun b => decide (0x80 ≤ b.toNat))).map Symbol.byte

end SchemeCheck.Encoding

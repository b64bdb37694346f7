import SchemeCheck.Diagnostic
import SchemeCheck.Diff.Unified
import SchemeCheck.Scheme.Plan
import SchemeCheck.Text.Lines

/-!
# SchemeCheck.Report

Comparing what a program did with what its scheme expects.  The return code,
standard output and standard error are checked independently, and every
mismatch is reported.  Output is compared line by line, so a missing final
newline and the kind of line ending do not matter.
-/

namespace SchemeCheck

/-- What a program did. -/
structure Outcome where
  stdout : Capture
  stderr : Capture
  returnCode : Int
  deriving DecidableEq

/-- The bodies of the lines of captured output. -/
def Capture.lineBodies (capture : Capture) : List Capture :=
  Text.cutLines (.char '\n') (.char '\r') capture

/-- The mismatches that were found. -/
structure Report where
  failures : List Capture
  deriving DecidableEq

namespace Report

/-! ## Checks -/

def returnCodeMismatch (want got : Int) : Text :=
  "Failed to match return code: want ".toList ++ Text.ofInt want ++ ", got ".toList ++
    Text.ofInt got

def returnCodeFailure? (want got : Int) : Option Text :=
  if got = want then none else some (returnCodeMismatch want got)

/-- The message about two outputs that differ: a unified diff of their lines,
and then the actual output. -/
def streamMismatch (name : Text) (want got : Capture) : Capture :=
  let head := "Failed matching ".toList ++ name ++ " (-missing line, +extra line):\n".toList
  let diff := Diff.unified ("want ".toList ++ name) ("got ".toList ++ name)
    want.lineBodies got.lineBodies
  Capture.ofText head ++ Text.joinWith [.char '\n'] diff ++
    Capture.ofText ('\n' :: (name ++ ":\n".toList)) ++ got

def streamFailure? (name : Text) (want got : Capture) : Option Capture :=
  if want.lineBodies = got.lineBodies then none else some (streamMismatch name want got)

/-- Every check of a plan against an outcome. -/
def compare (plan : Scheme.Plan) (outcome : Outcome) : Report where
  failures :=
    [ (returnCodeFailure? plan.returnCode outcome.returnCode).map Capture.ofText,
      streamFailure? "stdout".toList (Capture.ofText plan.stdout) outcome.stdout,
      streamFailure? "stderr".toList (Capture.ofText plan.stderr) outcome.stderr ].reduceOption

def passed (report : Report) : Bool :=
  report.failures.isEmpty

/-- Every mismatch in one message, with the scheme below if it is given. -/
def text (report : Report) (scheme filename : Option Text) : Capture :=
  let message :=
    Capture.ofText "Execution mismatch".toList ++
      (if report.failures.isEmpty then []
       else .char '\n' :: Text.joinWith [.char '\n'] report.failures)
  if scheme.isNone && filename.isNone then message
  else
    message ++ Capture.ofText (Diagnostic.trailer { filename := filename, scheme := scheme })

end Report

end SchemeCheck

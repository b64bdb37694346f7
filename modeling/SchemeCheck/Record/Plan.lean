import SchemeCheck.Record.Fields
import SchemeCheck.Report

/-!
# SchemeCheck.Record.Plan

Plans, outcomes and reports from raw fields.
-/

namespace SchemeCheck

open Record

/-- Whether a text starts with a key and `=`: with characters other than `=`, at
least one, and then `=`.  `keyed` says whether the key has begun. -/
def startsWithKey (keyed : Bool) : Text → Bool
  | [] => false
  | c :: rest => if c = '=' then keyed else startsWithKey true rest

/-- Check the raw fields of a plan. -/
def Scheme.Plan.ofFields (fields : Fields) : Checked Scheme.Plan :=
  Scheme.Plan.mk
    <$> fields.required "root_dir" pathRule
    <*> fields.optional "files" tableRule []
    <*> fields.optional "args" (listRule .notTuple textRule) []
    <*> fields.optional "env" (listRule .notTuple (textOfFormRule (startsWithKey false))) []
    <*> fields.optional "stdin" textRule []
    <*> fields.optional "stdout" textRule []
    <*> fields.optional "stderr" textRule []
    <*> fields.optional "return_code" integerRule 0
    <*> fields.optional "scheme" textRule []
    <* fields.only ["root_dir", "files", "args", "env", "stdin", "stdout", "stderr",
      "return_code", "scheme"]

/-- Check the raw fields of an outcome. -/
def Outcome.ofFields (fields : Fields) : Checked Outcome :=
  Outcome.mk
    <$> (fields.optional "stdout" textRule []).map Capture.ofText
    <*> (fields.optional "stderr" textRule []).map Capture.ofText
    <*> fields.optional "return_code" integerRule 0
    <* fields.only ["stdout", "stderr", "return_code"]

/-- Check the raw fields of a report. -/
def Report.ofFields (fields : Fields) : Checked Report :=
  (fun failures => { failures := failures.map Capture.ofText : Report })
    <$> fields.optional "failures" (listRule .notTuple textRule) []
    <* fields.only ["failures"]

end SchemeCheck

import SchemeCheck.Text.Basic

/-!
# SchemeCheck.Record.Checked

The outcome of checking raw values: a well-formed value, or every problem that
was found.  Independent checks are combined so that all of them are made and
their problems come in order; a problem knows the place in the raw value that
it is about.
-/

namespace SchemeCheck.Record

/-- What is wrong with a value. -/
inductive Complaint where
  | missing
  /-- The record has no such field. -/
  | extra
  /-- The record cannot be changed. -/
  | frozen
  /-- The record has no such field to assign. -/
  | unknownField
  | notText
  | textNotUtf8
  | textTooShort
  | textMalformed
  | notInteger
  | integerMalformed
  /-- A number with a fraction where an integer is needed. -/
  | fractional
  | notFinite
  | integerTooLarge
  | notTruth
  | truthMalformed
  | notGreater
  | notTable
  | notList
  | notTuple
  | notPath
  deriving DecidableEq

def Complaint.code : Complaint → String
  | missing => "missing"
  | extra => "extra_forbidden"
  | frozen => "frozen_instance"
  | unknownField => "no_such_attribute"
  | notText => "string_type"
  | textNotUtf8 => "string_unicode"
  | textTooShort => "string_too_short"
  | textMalformed => "string_pattern_mismatch"
  | notInteger => "int_type"
  | integerMalformed => "int_parsing"
  | fractional => "int_from_float"
  | notFinite => "finite_number"
  | integerTooLarge => "int_parsing_size"
  | notTruth => "bool_type"
  | truthMalformed => "bool_parsing"
  | notGreater => "greater_than"
  | notTable => "dict_type"
  | notList => "list_type"
  | notTuple => "tuple_type"
  | notPath => "path_type"

/-- A step into a raw value: to a field or an entry by name, or to an item or
an entry by number. -/
inductive Step where
  | name (text : Text)
  | number (n : Int)
  deriving DecidableEq

/-- A complaint about one place in a raw value. -/
structure Problem where
  place : List Step
  complaint : Complaint
  deriving DecidableEq

/-- A checked value, or the problems of the raw one. -/
inductive Checked (α : Type) where
  | valid (value : α)
  | invalid (problems : List Problem)

namespace Checked

variable {α β : Type}

def problems : Checked α → List Problem
  | valid _ => []
  | invalid problems => problems

/-- A complaint about the checked value itself. -/
def refuse (complaint : Complaint) : Checked α :=
  invalid [{ place := [], complaint := complaint }]

def map (f : α → β) : Checked α → Checked β
  | valid value => valid (f value)
  | invalid problems => invalid problems

/-- Make two checks and keep the problems of both. -/
def both (f : Checked (α → β)) (x : Checked α) : Checked β :=
  match f, x with
  | valid f, valid value => valid (f value)
  | f, x => invalid (f.problems ++ x.problems)

instance : Applicative Checked where
  pure := valid
  seq f x := both f (x ())

/-- Check a value further if it is valid so far. -/
def andThen (next : α → Checked β) : Checked α → Checked β
  | valid value => next value
  | invalid problems => invalid problems

/-- The check of a part, seen from the whole. -/
def inside (step : Step) : Checked α → Checked α
  | valid value => valid value
  | invalid problems =>
    invalid (problems.map fun problem => { problem with place := step :: problem.place })

/-- Make every check of a list. -/
def all : List (Checked α) → Checked (List α)
  | [] => valid []
  | x :: rest => both (x.map List.cons) (all rest)

end Checked

end SchemeCheck.Record

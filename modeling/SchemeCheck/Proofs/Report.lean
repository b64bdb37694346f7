import SchemeCheck.Proofs.Text.Lines
import SchemeCheck.Report

/-!
# SchemeCheck.Proofs.Report

What a comparison finds.  `Check` names the three things that are compared and
`Check.Holds` says in closed form when they agree: output agrees if its
canonical form does, in which the last line is closed and carriage returns
before line feeds are gone.  The main statement is `failures_compare`: the
mismatches of a report are the messages of the checks that do not hold, one for
each and in the order of the checks.
-/

namespace SchemeCheck

/-- The form of captured output in which it is compared. -/
def Capture.canonical (capture : Capture) : Capture :=
  Text.canonical (.char '\n') (.char '\r') capture

/-- Two captures have the same lines exactly if their canonical forms agree. -/
theorem Capture.lineBodies_eq_iff {xs ys : Capture} :
    xs.lineBodies = ys.lineBodies ↔ xs.canonical = ys.canonical :=
  Text.cutLines_eq_iff (by decide)

theorem Symbol.char_injective : Function.Injective Symbol.char :=
  fun _ _ h => Symbol.char.inj h

/-- Declared text is not changed by being compared as captured output. -/
theorem Capture.ofText_inj {xs ys : Text} : Capture.ofText xs = Capture.ofText ys ↔ xs = ys :=
  List.map_inj_right fun _ _ h => Symbol.char_injective h

theorem Capture.ofText_append (xs ys : Text) :
    Capture.ofText (xs ++ ys) = Capture.ofText xs ++ Capture.ofText ys :=
  List.map_append

/-- The lines of declared text are those of the text. -/
theorem Capture.lineBodies_ofText (text : Text) :
    (Capture.ofText text).lineBodies = (Text.lineBodies text).map Capture.ofText :=
  Text.cutLines_map Symbol.char_injective '\n' '\r' text

/-- What is compared. -/
inductive Check where
  | returnCode
  | stdout
  | stderr
  deriving DecidableEq

namespace Check

/-- The checks in the order in which they are made. -/
def all : List Check := [.returnCode, .stdout, .stderr]

/-- Whether an outcome is what the plan expects, as far as a check goes. -/
def Holds (plan : Scheme.Plan) (outcome : Outcome) : Check → Prop
  | returnCode => outcome.returnCode = plan.returnCode
  | stdout => outcome.stdout.canonical = (Capture.ofText plan.stdout).canonical
  | stderr => outcome.stderr.canonical = (Capture.ofText plan.stderr).canonical

instance (plan : Scheme.Plan) (outcome : Outcome) : DecidablePred (Holds plan outcome)
  | returnCode => inferInstanceAs (Decidable (_ = _))
  | stdout => inferInstanceAs (Decidable (_ = _))
  | stderr => inferInstanceAs (Decidable (_ = _))

/-- What is reported when a check does not hold. -/
def message (plan : Scheme.Plan) (outcome : Outcome) : Check → Capture
  | returnCode => Capture.ofText (Report.returnCodeMismatch plan.returnCode outcome.returnCode)
  | stdout =>
    Report.streamMismatch "stdout".toList (Capture.ofText plan.stdout) outcome.stdout
  | stderr =>
    Report.streamMismatch "stderr".toList (Capture.ofText plan.stderr) outcome.stderr

/-- The checks that do not hold. -/
def violated (plan : Scheme.Plan) (outcome : Outcome) : List Check :=
  all.filter fun check => !decide (check.Holds plan outcome)

end Check

/-- An outcome that is what the plan expects. -/
def Outcome.Meets (plan : Scheme.Plan) (outcome : Outcome) : Prop :=
  outcome.returnCode = plan.returnCode ∧
    outcome.stdout.canonical = (Capture.ofText plan.stdout).canonical ∧
    outcome.stderr.canonical = (Capture.ofText plan.stderr).canonical

namespace Report

theorem streamFailure?_eq (name : Text) (want got : Capture) :
    streamFailure? name want got =
      if got.canonical = want.canonical then none else some (streamMismatch name want got) := by
  unfold streamFailure?
  simp only [Capture.lineBodies_eq_iff, eq_comm]

/-- Every check adds its message to the report unless it holds. -/
theorem failures_eq_filterMap (plan : Scheme.Plan) (outcome : Outcome) :
    (compare plan outcome).failures = Check.all.filterMap fun check =>
      if check.Holds plan outcome then none else some (check.message plan outcome) := by
  have hcode : (returnCodeFailure? plan.returnCode outcome.returnCode).map Capture.ofText =
      if outcome.returnCode = plan.returnCode then none
      else some (Check.returnCode.message plan outcome) := by
    unfold returnCodeFailure?
    split <;> rfl
  rw [compare, hcode, streamFailure?_eq, streamFailure?_eq]
  rfl

/-- **Report**: a comparison lists the messages of the checks that do not hold. -/
theorem failures_compare (plan : Scheme.Plan) (outcome : Outcome) :
    (compare plan outcome).failures =
      (Check.violated plan outcome).map (Check.message plan outcome) := by
  rw [failures_eq_filterMap, Check.violated]
  induction Check.all with
  | nil => rfl
  | cons check rest ih =>
      by_cases h : check.Holds plan outcome <;> simp [h, ih]

/-- A comparison is passed exactly if no check is violated. -/
theorem passed_compare_iff {plan : Scheme.Plan} {outcome : Outcome} :
    (compare plan outcome).passed = true ↔ outcome.Meets plan := by
  have hall : (∀ check ∈ Check.all, check.Holds plan outcome) ↔ outcome.Meets plan := by
    simp [Check.all, Check.Holds, Outcome.Meets]
  rw [passed, failures_compare, List.isEmpty_map, List.isEmpty_iff, Check.violated,
    List.filter_eq_nil_iff, ← hall]
  simp only [Bool.not_eq_true, Bool.not_eq_false', decide_eq_true_eq]

end Report

end SchemeCheck

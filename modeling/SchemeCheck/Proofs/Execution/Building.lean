import SchemeCheck.Invocation
import SchemeCheck.Proofs.Execution.Adjustment

/-!
# SchemeCheck.Proofs.Execution.Building

Which commands can be built.  A program that is anchored at a directory is
never written as the empty text unless it was empty (`anchorProgram_eq_nil_iff`);
so a command is refused for its program or for an adjustment, and for nothing
that the plan holds: `command_eq`.
-/

namespace SchemeCheck

/-- A path from the root is not written as the empty text. -/
theorem Path.text_ofNames_ne_nil (names : List Text) : (Path.ofNames names).text ≠ [] :=
  List.cons_ne_nil _ _

/-- Anchoring makes no program of nothing, and nothing of no program. -/
theorem Command.anchorProgram_eq_nil_iff {base : Place} {program : Text} :
    anchorProgram (Path.ofNames base) program = [] ↔ program = [] := by
  unfold anchorProgram
  split
  · rfl
  · next hslash =>
    have hne : program ≠ [] := by
      rintro rfl
      exact hslash rfl
    dsimp only
    split
    · rfl
    · next hrelative =>
      rw [Path.join, if_neg hrelative]
      exact iff_of_false (Path.text_ofNames_ne_nil _) hne

namespace Harness

/-- The problem of a command without a program. -/
def noProgram : Record.Problem :=
  { place := [.name "program".toList], complaint := .textTooShort }

/-- The command of a plan before it is adjusted. -/
def unadjusted (harness : Harness) (program : Text) (plan : Scheme.Plan) : Command where
  program := Command.anchorProgram (Path.ofNames harness.cwd) program
  args := plan.args
  cwd := plan.rootDir
  env := harness.ambient.merge plan.environ
  stdin := plan.stdin
  encoding := harness.settings.encoding

/-- **Building**: a command is refused if it has no program, and else it is what
the adjustments make of it. -/
theorem command_eq (harness : Harness) (program : Text) (adjustments : List Command.Adjustment)
    (plan : Scheme.Plan) :
    harness.command program adjustments plan =
      if program = [] then .error (.invalid [noProgram])
      else (harness.unadjusted program plan).adjustAll adjustments := by
  unfold command Command.forPlan
  simp only [List.isEmpty_iff, Command.anchorProgram_eq_nil_iff]
  by_cases hnone : program = []
  · simp only [if_pos hnone]
    rfl
  · simp only [if_neg hnone]
    rfl

/-- A program needs no adjustments to have a command. -/
theorem command_of_ne_nil {program : Text} (h : program ≠ []) (harness : Harness)
    (plan : Scheme.Plan) :
    harness.command program [] plan = .ok (harness.unadjusted program plan) := by
  rw [command_eq, if_neg h]
  rfl

/-- Built-in adjustments leave to a command what they are not about. -/
theorem keeps_of_command {harness : Harness} {program : Text}
    {adjustments : List Command.Adjustment} {plan : Scheme.Plan} {command : Command}
    (hbuiltIn : ∀ adjustment ∈ adjustments, adjustment.isBuiltIn = true)
    (h : harness.command program adjustments plan = .ok command) :
    Command.Keeps (harness.unadjusted program plan) command := by
  rw [command_eq] at h
  split at h
  · cases h
  · exact Command.adjustAll_keeps hbuiltIn h

end Harness

end SchemeCheck

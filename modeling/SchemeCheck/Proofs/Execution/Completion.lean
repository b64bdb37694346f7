import Mathlib.Control.Monad.Basic
import SchemeCheck.Execution.Run

/-!
# SchemeCheck.Proofs.Execution.Completion

What becomes of a process that a run has started.  A run has three ends
(`run_cases`), and the start comes before the input is encoded; so a process is
brought to its end exactly if the input has bytes in the encoding of the
command: `completed_run_iff`.
-/

namespace SchemeCheck.Execution

variable {starter : Starter} {command : Command} {encoding : Encoding} {input : List UInt8}

/-! ## Input -/

/-- The input has bytes exactly if the encoding exists and can express it. -/
theorem inputOf_eq_ok_iff : inputOf command = .ok (encoding, input) ↔
    Encoding.lookup command.encoding = .ok encoding ∧
      encoding.encode command.stdin = .ok input := by
  unfold inputOf
  cases Encoding.lookup command.encoding with
  | error cause => simp [Except.mapError, bind, Except.bind]
  | ok found =>
      cases hencode : found.encode command.stdin with
      | error cause =>
          simp only [Except.mapError, bind, Except.bind, hencode, reduceCtorEq, Except.ok.injEq,
            false_iff, not_and]
          rintro rfl
          simp [hencode]
      | ok bytes =>
          simp only [Except.mapError, bind, Except.bind, hencode, pure, Except.pure,
            Except.ok.injEq, Prod.mk.injEq]
          constructor
          · rintro ⟨rfl, rfl⟩
            exact ⟨rfl, hencode⟩
          · rintro ⟨rfl, hsame⟩
            exact ⟨rfl, Except.ok.inj (hencode.symm.trans hsame)⟩

/-! ## The ends of a run -/

/-- The launch of a command of which nothing has come yet. -/
def Launch.asked (command : Command) : Launch :=
  { start := Start.ofCommand command, started := false, fed := none, waited := false }

/-- **The three ends of a run**: the start is refused, the process is left as it
was started because its input has no bytes, or it is fed and waited for. -/
theorem run_cases (starter : Starter) (command : Command) :
    (∃ failure, starter (Start.ofCommand command) = .error failure ∧
      run starter command =
        { launch := Launch.asked command, result := .error (failure.toFailure command) }) ∨
    (∃ running cause, starter (Start.ofCommand command) = .ok running ∧
      inputOf command = .error cause ∧
      run starter command =
        { launch := { Launch.asked command with started := true }, result := .error cause }) ∨
    ∃ running encoding input, starter (Start.ofCommand command) = .ok running ∧
      inputOf command = .ok (encoding, input) ∧
      run starter command =
        { launch :=
            { Launch.asked command with started := true, fed := some input, waited := true }
          result := outcomeOf running encoding input } := by
  cases hstart : starter (Start.ofCommand command) with
  | error failure =>
      refine .inl ⟨failure, rfl, ?_⟩
      simp only [run, hstart, Launch.asked]
  | ok running =>
      cases hinput : inputOf command with
      | error cause =>
          refine .inr (.inl ⟨running, cause, rfl, rfl, ?_⟩)
          simp only [run, hstart, hinput, Launch.asked]
      | ok bytes =>
          refine .inr (.inr ⟨running, bytes.1, bytes.2, rfl, rfl, ?_⟩)
          simp only [run, hstart, hinput, Launch.asked]

/-- A starter is asked for just what the command describes. -/
theorem start_run (starter : Starter) (command : Command) :
    (run starter command).launch.start = Start.ofCommand command := by
  obtain ⟨_, -, h⟩ | ⟨_, _, -, -, h⟩ | ⟨_, _, _, -, -, h⟩ := run_cases starter command
  all_goals rw [h]; rfl

/-- What a process is fed is the input of the command in its encoding. -/
theorem encode_of_fed (h : (run starter command).launch.fed = some input) :
    ∃ encoding, Encoding.lookup command.encoding = .ok encoding ∧
      encoding.encode command.stdin = .ok input := by
  obtain ⟨_, -, hrun⟩ | ⟨_, _, -, -, hrun⟩ | ⟨_, encoding, found, -, hinput, hrun⟩ :=
    run_cases starter command
  · rw [hrun] at h; cases h
  · rw [hrun] at h; cases h
  · rw [hrun] at h
    obtain rfl := Option.some.inj h
    exact ⟨encoding, inputOf_eq_ok_iff.mp hinput⟩

/-- A run that has an outcome has brought its process to the end. -/
theorem waited_of_ok {outcome : Outcome} (h : (run starter command).result = .ok outcome) :
    (run starter command).launch.started = true ∧ (run starter command).launch.waited = true := by
  obtain ⟨_, -, hrun⟩ | ⟨_, _, -, -, hrun⟩ | ⟨_, _, _, -, -, hrun⟩ := run_cases starter command
  · rw [hrun] at h; cases h
  · rw [hrun] at h; cases h
  · rw [hrun]; exact ⟨rfl, rfl⟩

/-! ## Failures after the start -/

theorem inputOf_ne_start (program : Text) (cwd : Path) (cause : Text) :
    inputOf command ≠ .error (.start program cwd cause) := by
  unfold inputOf
  cases Encoding.lookup command.encoding with
  | error failure => simp [Except.mapError, bind, Except.bind]
  | ok found =>
      cases hencode : found.encode command.stdin <;>
        simp [hencode, Except.mapError, bind, Except.bind, pure, Except.pure]

theorem outcomeOf_ne_start (running : Running) (encoding : Encoding) (input : List UInt8)
    (program : Text) (cwd : Path) (cause : Text) :
    outcomeOf running encoding input ≠ .error (.start program cwd cause) := by
  unfold outcomeOf
  cases hstdout : encoding.capture (running.stdout input) with
  | error failure => simp [Except.mapError, bind, Except.bind]
  | ok stdout =>
      cases hstderr : encoding.capture (running.stderr input) with
      | error failure => simp [Except.mapError, bind, Except.bind]
      | ok stderr =>
          simp only [Except.mapError, bind, Except.bind, pure, Except.pure]
          split <;> simp [throw, throwThe, MonadExceptOf.throw]

/-- A process that was started does not fail by its start. -/
theorem ne_start_of_started {running : Running} {failure : Failure}
    (hstart : starter (Start.ofCommand command) = .ok running)
    (h : (run starter command).result = .error failure) (program : Text) (cwd : Path)
    (cause : Text) : failure ≠ .start program cwd cause := by
  rintro rfl
  obtain ⟨refused, hrefused, -⟩ | ⟨_, failure, -, hinput, hrun⟩ |
    ⟨running, encoding, input, -, -, hrun⟩ := run_cases starter command
  · cases hstart.symm.trans hrefused
  · rw [hrun] at h
    rw [Except.error.inj h] at hinput
    exact inputOf_ne_start program cwd cause hinput
  · rw [hrun] at h
    exact outcomeOf_ne_start running encoding input program cwd cause h

/-! ## Completion -/

/-- A launch that leaves no process behind: if one was started, it was fed the
whole input of the command and waited for. -/
def Launch.Completed (command : Command) (launch : Launch) : Prop :=
  launch.started = true → ∃ encoding input,
    Encoding.lookup command.encoding = .ok encoding ∧
    encoding.encode command.stdin = .ok input ∧ launch.fed = some input ∧ launch.waited = true

/-- **Completion**: a run leaves no process behind exactly if the start is
refused or the input has bytes in the encoding of the command. -/
theorem completed_run_iff (starter : Starter) (command : Command) :
    (run starter command).launch.Completed command ↔
      (∃ failure, starter (Start.ofCommand command) = .error failure) ∨
      ∃ encoding input, Encoding.lookup command.encoding = .ok encoding ∧
        encoding.encode command.stdin = .ok input := by
  obtain ⟨failure, hstart, hrun⟩ | ⟨running, cause, hstart, hinput, hrun⟩ |
    ⟨running, encoding, input, hstart, hinput, hrun⟩ := run_cases starter command
  · rw [hrun]
    exact ⟨fun _ => .inl ⟨failure, hstart⟩, fun _ => nofun⟩
  · have hnone : ∀ encoding input, ¬ (Encoding.lookup command.encoding = .ok encoding ∧
        encoding.encode command.stdin = .ok input) := by
      intro encoding input hbytes
      rw [inputOf_eq_ok_iff.mpr hbytes] at hinput
      cases hinput
    rw [hrun, hstart]
    constructor
    · intro h
      obtain ⟨encoding, bytes, hlookup, hencode, -⟩ := h rfl
      exact absurd ⟨hlookup, hencode⟩ (hnone encoding bytes)
    · rintro (⟨failure, hfailure⟩ | ⟨encoding, bytes, hbytes⟩)
      · cases hfailure
      · exact absurd hbytes (hnone encoding bytes)
  · obtain ⟨hlookup, hencode⟩ := inputOf_eq_ok_iff.mp hinput
    rw [hrun]
    exact ⟨fun _ => .inr ⟨encoding, input, hlookup, hencode⟩,
      fun _ _ => ⟨encoding, input, hlookup, hencode, rfl, rfl⟩⟩

/-- A character beyond ASCII leaves a process that is neither fed nor waited
for. -/
theorem not_completed_run :
    ¬ ∀ (starter : Starter) (command : Command),
      (run starter command).launch.Completed command := by
  intro h
  let command : Command :=
    { program := "prog".toList, args := [], cwd := Path.ofText "/fixture".toList, env := []
      stdin := "é".toList, encoding := "ascii".toList }
  let starter : Starter := fun _ => .ok
    { stdout := fun _ => [], stderr := fun _ => [], code := .valid 0 }
  obtain ⟨-, bytes, -, -, hfed, -⟩ := h starter command (by decide +kernel)
  have hnone : (run starter command).launch.fed = none := by decide +kernel
  rw [hnone] at hfed
  cases hfed

end SchemeCheck.Execution

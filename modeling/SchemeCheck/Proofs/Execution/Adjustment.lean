import SchemeCheck.Execution.Command

/-!
# SchemeCheck.Proofs.Execution.Adjustment

What adjustments leave alone.  Apart from assignments, which a caller names
himself, an adjustment is about the arguments, the working directory or the
environment; however many are made, the program, its input and the encoding are
those that the command was built with (`adjustAll_keeps`).
-/

namespace SchemeCheck.Command

/-- Whether an adjustment says by itself which field it is about. -/
def Adjustment.isBuiltIn : Adjustment → Bool
  | .set _ _ => false
  | .withEnv _ | .withoutEnv _ | .withCwd _ | .withArgs _ => true

/-- A command that differs at most in what built-in adjustments are about. -/
def Keeps (before after : Command) : Prop :=
  after = { before with args := after.args, cwd := after.cwd, env := after.env }

theorem Keeps.trans {first second third : Command} (h : Keeps first second)
    (h' : Keeps second third) : Keeps first third := by
  unfold Keeps at h h' ⊢
  rw [h', h]

theorem Keeps.program {before after : Command} (h : Keeps before after) :
    after.program = before.program := by
  rw [h]

theorem Keeps.stdin {before after : Command} (h : Keeps before after) :
    after.stdin = before.stdin := by
  rw [h]

theorem Keeps.encoding {before after : Command} (h : Keeps before after) :
    after.encoding = before.encoding := by
  rw [h]

/-- A field that is replaced is replaced by some value. -/
theorem replace_ok {α : Type} {field : Text} {rule : Record.Rule α} {value : Value}
    {set : α → Command} {next : Command} (h : replace field rule value set = .ok next) :
    ∃ a, next = set a := by
  unfold replace at h
  split at h
  · next a _ => exact ⟨a, (Except.ok.inj h).symm⟩
  · cases h

/-- **Step**: one built-in adjustment. -/
theorem adjust_keeps {adjustment : Adjustment} (hbuiltIn : adjustment.isBuiltIn = true)
    {command next : Command} (h : command.adjust adjustment = .ok next) : Keeps command next := by
  cases adjustment with
  | withEnv overlay =>
      obtain ⟨env, rfl⟩ := replace_ok h
      rfl
  | withoutEnv names =>
      obtain rfl := Except.ok.inj h
      rfl
  | withCwd path =>
      cases path with
      | str path =>
          obtain rfl := Except.ok.inj h
          rfl
      | _ => cases h
  | withArgs args =>
      obtain ⟨args, rfl⟩ := replace_ok h
      rfl
  | set field value => cases hbuiltIn

/-- **Run**: any number of them. -/
theorem adjustAll_keeps {adjustments : List Adjustment}
    (hbuiltIn : ∀ adjustment ∈ adjustments, adjustment.isBuiltIn = true) {command next : Command}
    (h : command.adjustAll adjustments = .ok next) : Keeps command next := by
  induction adjustments generalizing command with
  | nil =>
      obtain rfl := Except.ok.inj h
      rfl
  | cons adjustment rest ih =>
      obtain ⟨hfirst, hrest⟩ := List.forall_mem_cons.mp hbuiltIn
      unfold adjustAll at h
      rw [List.foldlM_cons] at h
      cases hadjust : command.adjust adjustment with
      | error failure => rw [hadjust] at h; cases h
      | ok adjusted =>
          rw [hadjust] at h
          exact (adjust_keeps hfirst hadjust).trans (ih hrest h)

end SchemeCheck.Command

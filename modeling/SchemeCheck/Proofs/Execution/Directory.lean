import SchemeCheck.Proofs.Execution.LastWord
import SchemeCheck.Proofs.FileSystem.Path

/-!
# SchemeCheck.Proofs.Execution.Directory

The working directory of a command.  Adjustments enter directories one after
another, each seen from where the one before it has led (`foldl_move`), and not
from the fixture root.  So the last directory decides alone only if it is
absolute or nothing before it has left the root: `command_cwd_iff`.
-/

namespace SchemeCheck

namespace Path

/-- Where one comes to from a path by entering directories one after another. -/
def enter (base : Path) (directories : List Text) : Path :=
  directories.foldl (fun here directory => here.join (ofText directory)) base

/-- The last of some directories, seen from a path; without any the path itself. -/
def lastFrom (base : Path) (directories : List Text) : Path :=
  match directories.getLast? with
  | some last => base.join (ofText last)
  | none => base

/-- An absolute path is itself wherever it is seen from. -/
theorem join_of_isAbsolute {below : Path} (h : below.isAbsolute = true) (path : Path) :
    path.join below = below :=
  if_pos h

/-- Two paths can be told apart by what a relative path is, seen from them. -/
theorem join_left_inj {below : Path} (h : below.isAbsolute = false) {path other : Path} :
    path.join below = other.join below ↔ path = other := by
  obtain ⟨anchor, names⟩ := path
  obtain ⟨anchor', names'⟩ := other
  simp [join, h]

/-- Entering directories leads to the last one of them exactly if that is absolute or the
ones before it lead back. -/
theorem enter_eq_lastFrom_iff {base : Path} {directories : List Text} :
    base.enter directories = base.lastFrom directories ↔
      ∀ last ∈ directories.getLast?,
        (ofText last).isAbsolute = true ∨ base.enter directories.dropLast = base := by
  cases directories using List.reverseRecOn with
  | nil => simp [enter, lastFrom]
  | append_singleton front last =>
      have henter : base.enter (front ++ [last]) = (base.enter front).join (ofText last) := by
        simp [enter]
      have hlast : base.lastFrom (front ++ [last]) = base.join (ofText last) := by
        simp [lastFrom]
      rw [henter, hlast, List.getLast?_concat, List.dropLast_concat]
      simp only [Option.mem_some_iff, forall_eq']
      cases habsolute : (ofText last).isAbsolute with
      | true => simp [join_of_isAbsolute habsolute]
      | false => simp [join_left_inj habsolute]

end Path

namespace TextAdjustment

/-- The directory that an adjustment asks for. -/
def directory? : TextAdjustment → Option Text
  | withCwd path => some path
  | withEnv _ _ | withoutEnv _ | withArgs _ => none

/-- Adjustments enter the directories that they ask for. -/
theorem foldl_move (cwd : Path) (adjustments : List TextAdjustment) :
    adjustments.foldl move cwd = cwd.enter (adjustments.filterMap directory?) := by
  induction adjustments generalizing cwd with
  | nil => rfl
  | cons adjustment rest ih =>
      rw [List.foldl_cons, ih]
      cases adjustment <;> rfl

end TextAdjustment

namespace Harness

/-- **Working directory**: a command is run where its directories lead one after another
from the fixture root.  That is the last one of them, seen from the root, exactly if it is
absolute or the ones before it lead back to the root. -/
theorem command_cwd_iff {harness : Harness} (hambient : (Table.keys harness.ambient).Nodup)
    {program : Text} (hprogram : program ≠ []) (plan : Scheme.Plan)
    (adjustments : List TextAdjustment) :
    let directories := adjustments.filterMap TextAdjustment.directory?
    ∃ command,
      harness.command program (adjustments.map TextAdjustment.adjustment) plan = .ok command ∧
      command.cwd = plan.rootDir.enter directories ∧
      (command.cwd = plan.rootDir.lastFrom directories ↔
        ∀ last ∈ directories.getLast?,
          (Path.ofText last).isAbsolute = true ∨
            plan.rootDir.enter directories.dropLast = plan.rootDir) := by
  intro directories
  have hunadjusted : Follows (harness.ambient.map Word.ofPair ++
      (plan.env.map Scheme.splitEnvEntry).map Word.ofPair)
      (harness.unadjusted program plan).env :=
    (Follows.ofNodup hambient).mergeEntries _
  obtain ⟨command, hcommand, -, -, hcwd⟩ := Command.adjustAll_text hunadjusted adjustments
  rw [TextAdjustment.foldl_move] at hcwd
  refine ⟨command, ?_, hcwd, ?_⟩
  · rw [command_eq, if_neg hprogram, hcommand]
  · rw [hcwd]
    exact Path.enter_eq_lastFrom_iff

/-- Directories that lead away from the root and back to it. -/
theorem command_cwd_iff_returning :
    let harness : Harness :=
      { settings := { strict := false, maxLineSize := 80, encoding := "utf-8".toList }
        escalate := false, cwd := [], ambient := []
        starter := fun _ => .error (.foreign []) }
    let plan : Scheme.Plan :=
      { rootDir := Path.ofText "/r".toList, files := [], args := [], env := [], stdin := []
        stdout := [], stderr := [], returnCode := 0, scheme := [] }
    let adjustments : List TextAdjustment :=
      [.withCwd "a/..".toList, .withCwd "//r".toList, .withArgs ["-v".toList],
        .withCwd "/r/.".toList, .withCwd "b//c".toList, .withoutEnv ["E".toList]]
    (Table.keys harness.ambient).Nodup ∧ "p".toList ≠ [] ∧
    ∃ command,
      harness.command "p".toList (adjustments.map TextAdjustment.adjustment) plan =
        .ok command ∧
      command.cwd = Path.ofText "/r/b/c".toList := by
  intro harness plan adjustments
  have hnodup : (Table.keys harness.ambient).Nodup := List.nodup_nil
  have hprogram : "p".toList ≠ [] := by decide
  obtain ⟨command, hcommand, -, hiff⟩ := command_cwd_iff hnodup hprogram plan adjustments
  refine ⟨hnodup, hprogram, command, hcommand, ?_⟩
  rw [hiff.mpr (by decide +kernel)]
  decide +kernel

/-- A second directory is not seen from the root but from the first one. -/
theorem not_command_cwd :
    ¬ ∀ (harness : Harness) (program : Text) (plan : Scheme.Plan)
      (adjustments : List TextAdjustment) (command : Command),
      harness.command program (adjustments.map TextAdjustment.adjustment) plan = .ok command →
      command.cwd =
        plan.rootDir.lastFrom (adjustments.filterMap TextAdjustment.directory?) := by
  intro h
  let harness : Harness :=
    { settings := { strict := false, maxLineSize := 80, encoding := "utf-8".toList }
      escalate := false, cwd := [], ambient := [], starter := fun _ => .error (.foreign []) }
  let plan : Scheme.Plan :=
    { rootDir := Path.ofText "/fixture".toList, files := [], args := [], env := [], stdin := []
      stdout := [], stderr := [], returnCode := 0, scheme := [] }
  let command : Command :=
    { program := "p".toList, args := [], cwd := Path.ofText "/fixture/a/b".toList, env := []
      stdin := [], encoding := "utf-8".toList }
  have hcwd := h harness "p".toList plan [.withCwd ['a'], .withCwd ['b']] command
    (by decide +kernel)
  exact absurd hcwd (by decide +kernel)

end Harness

end SchemeCheck

import SchemeCheck.Proofs.FileSystem.Path
import SchemeCheck.Proofs.Staging
import SchemeCheck.Session.Item

/-!
# SchemeCheck.Proofs.Session.Anchoring

The program of a session, from where it is given to where it is started.  A
program is anchored twice: at the directory in which it was given when the
session is configured, and at the current directory when a command is built.
The first time settles it: what comes out is a bare name or starts at the root,
and both stay as they are (`anchorProgram_anchorProgram`).  So the program that an
item starts is the one that was configured, whatever the current directory and
the fixture root are then: `program_anchored_once`.
-/

namespace SchemeCheck

/-! ## Anchoring -/

namespace Command

/-- A bare name is left to the search path. -/
theorem anchorProgram_of_not_mem {program : Text} (h : '/' ∉ program) (base : Path) :
    anchorProgram base program = program := by
  simp [anchorProgram, h]

/-- A path from the root is left as it is written. -/
theorem anchorProgram_of_isRooted {program : Text} (h : program.isRooted = true) (base : Path) :
    anchorProgram base program = program := by
  simp [anchorProgram, Path.isAbsolute_ofText, h]

/-- Any other path is seen from the base. -/
theorem anchorProgram_of_relative {program : Text} (hslash : '/' ∈ program)
    (h : program.isRooted = false) (base : Path) :
    anchorProgram base program = (base.join (Path.ofText program)).text := by
  simp [anchorProgram, Path.isAbsolute_ofText, h, hslash]

variable {location : Text}

/-- An anchored path is the path that the program is, seen from the base. -/
theorem ofText_anchorProgram {program : Text} (hslash : '/' ∈ program) :
    Path.ofText (anchorProgram (Path.ofText location) program) =
      (Path.ofText location).join (Path.ofText program) := by
  cases h : program.isRooted with
  | true =>
      rw [anchorProgram_of_isRooted h, Path.join,
        if_pos ((Path.isAbsolute_ofText program).trans h)]
  | false => rw [anchorProgram_of_relative hslash h, Path.ofText_text_join]

/-- From an absolute base a path is anchored at the root. -/
theorem isRooted_anchorProgram (hlocation : location.isRooted = true) {program : Text}
    (hslash : '/' ∈ program) :
    (anchorProgram (Path.ofText location) program).isRooted = true := by
  rw [← Path.isAbsolute_ofText, ofText_anchorProgram hslash]
  exact Path.isAbsolute_join ((Path.isAbsolute_ofText location).trans hlocation) _

/-- **What has been anchored stays**, wherever it is anchored again. -/
theorem anchorProgram_anchorProgram (hlocation : location.isRooted = true) (program : Text)
    (cwd : Path) :
    anchorProgram cwd (anchorProgram (Path.ofText location) program) =
      anchorProgram (Path.ofText location) program := by
  by_cases hslash : '/' ∈ program
  · exact anchorProgram_of_isRooted (isRooted_anchorProgram hlocation hslash) cwd
  · rw [anchorProgram_of_not_mem hslash, anchorProgram_of_not_mem hslash]

end Command

namespace Session

/-! ## Configuration -/

/-- A program that is given for a session, on its command line or else in its
configuration file, and the directory from which it is seen there. -/
inductive Given (options : Options) (ini : IniValues) (called root : Path) : Text → Path → Prop
  | option {program : Text} (h : options.program = some program) (hne : program ≠ []) :
    Given options ini called root program called
  | ini {program : Text} (hnone : options.program.getD [] = []) (h : ini.program = some program)
    (hne : program ≠ []) : Given options ini called root program root

variable {options : Options} {ini : IniValues} {called root : Path} {program : Text} {base : Path}

theorem Given.programOf_eq (h : Given options ini called root program base) :
    programOf options ini called root = .ok (some (Command.anchorProgram base program)) := by
  unfold programOf
  cases h with
  | option h hne => simp [h, hne]
  | ini hnone h hne => simp [hnone, h, hne]

/-- A session is configured with the program that is given for it, anchored there. -/
theorem program_of_configure {environ : Table Text Text} {configuration : Configuration}
    (h : Given options ini called root program base)
    (hconfigure : configure environ options ini called root = .ok configuration) :
    configuration.program = some (Command.anchorProgram base program) := by
  unfold configure at hconfigure
  rw [h.programOf_eq] at hconfigure
  cases hsettings : Settings.resolve environ [] with
  | invalid problems => simp [hsettings] at hconfigure
  | valid settings =>
      simp only [hsettings] at hconfigure
      split at hconfigure
      · obtain rfl := Except.ok.inj hconfigure
        rfl
      · cases hstrict : ini.strict with
        | none =>
            rw [hstrict] at hconfigure
            cases hconfigure
        | some strict =>
            rw [hstrict] at hconfigure
            obtain rfl := Except.ok.inj hconfigure
            rfl

/-! ## Items -/

/-- An item starts a program and no other, from any directory and for any fixture root, and
it does so as soon as its scheme is read and the files of the plan are written. -/
structure Item.Starts (item : Item) (program : Text) : Prop where
  noOther : ∀ (harness : Harness) (root : Path) (fs : FileSystem),
    ∀ launch ∈ (item.run harness root fs).launches,
      launch.start.argv.head? = some program ∧ launch.start.executable = none
  launched : ∀ (harness : Harness) (root : Path) (fs : FileSystem) (scheme : Text)
    (plan : Scheme.Plan), harness.Prepares root item.path.text fs scheme plan →
      (item.run harness root fs).launches ≠ []

/-- An item whose program stays where it is anchored starts just that. -/
theorem Item.starts_program {item : Item} (hne : item.program ≠ [])
    (hsettled : ∀ cwd, Command.anchorProgram cwd item.program = item.program) :
    item.Starts item.program := by
  constructor
  case noOther =>
    intro harness root fs launch hlaunch
    unfold Item.run Harness.executeFile at hlaunch
    split at hlaunch
    · cases hlaunch
    · obtain ⟨plan, hstart⟩ := Harness.start_of_launched hlaunch
      rw [hstart]
      exact ⟨congrArg some (hsettled _), rfl⟩
  case launched =>
    intro harness root fs scheme plan hprepares
    rw [Item.run, Harness.executeFile_of_loads hprepares.1]
    exact Harness.launches_ne_nil hne hprepares.2

/-- A scheme file is an item of a session that has a program. -/
theorem Item.collect?_of_isSchemeName (hne : program ≠ []) {path : Path}
    (h : isSchemeName path.lastName = true) :
    Item.collect? (some program) path = some { path := path, program := program } := by
  simp [Item.collect?, hne, h]

/-! ## From the configuration to the start -/

/-- **Anchored once**: from an absolute directory, a bare name is left as it is and any
other program becomes the absolute path that it is there; neither changes when it is
anchored again, from wherever.  So if a session is given a program that is not a bare
name, its items start just the one that was anchored where it was given. -/
theorem program_anchored_once {location : Text} (hlocation : location.isRooted = true)
    (program : Text) :
    let anchored := Command.anchorProgram (Path.ofText location) program
    ('/' ∉ program → anchored = program) ∧
    ('/' ∈ program → (Path.ofText anchored).isAbsolute = true ∧
      Path.ofText anchored = (Path.ofText location).join (Path.ofText program)) ∧
    (∀ cwd, Command.anchorProgram cwd anchored = anchored) ∧
    ∀ environ options ini called root configuration, '/' ∈ program →
      Given options ini called root program (Path.ofText location) →
      configure environ options ini called root = .ok configuration →
      ∀ path : Path, isSchemeName path.lastName = true →
        ∃ item, Item.collect? configuration.program path = some item ∧ item.path = path ∧
          item.Starts anchored := by
  intro anchored
  have hsettled : ∀ cwd, Command.anchorProgram cwd anchored = anchored :=
    Command.anchorProgram_anchorProgram hlocation program
  refine ⟨fun hbare => Command.anchorProgram_of_not_mem hbare _, ?absolute, hsettled, ?started⟩
  case absolute =>
    intro hslash
    refine ⟨?_, Command.ofText_anchorProgram hslash⟩
    exact (Path.isAbsolute_ofText _).trans (Command.isRooted_anchorProgram hlocation hslash)
  case started =>
    intro environ options ini called root configuration hslash hgiven hconfigure path hname
    have hne : anchored ≠ [] := by
      have hrooted := Command.isRooted_anchorProgram hlocation hslash
      rintro hnil
      rw [show Command.anchorProgram (Path.ofText location) program = [] from hnil] at hrooted
      cases hrooted
    rw [program_of_configure hgiven hconfigure]
    exact ⟨_, Item.collect?_of_isSchemeName hne hname, rfl, Item.starts_program hne hsettled⟩

/-- A program that is given in two places, and is started from a third one for a scheme in a
fourth one. -/
theorem program_anchored_once_configured :
    let options : Options := { program := some "./build/../tool/".toList }
    let ini : IniValues := { program := some "bin/tool".toList }
    let called := Path.ofText "/invoked".toList
    let root := Path.ofText "/project".toList
    let path := Path.ofText "/t/test_a.scheme".toList
    let harness : Harness :=
      { settings := { strict := false, maxLineSize := 80, encoding := "utf-8".toList }
        escalate := false, cwd := ["elsewhere".toList], ambient := []
        starter := fun _ => .error (.foreign []) }
    let fs : FileSystem :=
      { entries := [(["t".toList], .directory),
          (["t".toList, "test_a.scheme".toList], .file [45, 45, 97, 114, 103, 58, 120])] }
    Text.isRooted "/invoked".toList = true ∧ '/' ∈ "./build/../tool/".toList ∧
    isSchemeName path.lastName = true ∧
    ∃ configuration item launch,
      configure [] options ini called root = .ok configuration ∧
      Item.collect? configuration.program path = some item ∧
      launch ∈ (item.run harness (Path.ofText "/r".toList) fs).launches ∧
      launch.start.argv.head? = some "/invoked/build/../tool".toList := by
  intro options ini called root path harness fs
  let configuration : Configuration :=
    { settings := { strict := false, maxLineSize := 1048576, encoding := "utf-8".toList }
      program := some "/invoked/build/../tool".toList }
  let plan : Scheme.Plan :=
    { rootDir := Path.ofText "/r".toList, files := [], args := ["x".toList], env := [], stdin := []
      stdout := [], stderr := [], returnCode := 0, scheme := "--arg:x".toList }
  have hlocation : Text.isRooted "/invoked".toList = true := by decide
  have hslash : '/' ∈ "./build/../tool/".toList := by decide
  have hname : isSchemeName path.lastName = true := by decide +kernel
  have hconfigure : configure [] options ini called root = .ok configuration := by
    decide +kernel
  have hgiven : Given options ini called root "./build/../tool/".toList called :=
    .option rfl (by decide)
  obtain ⟨-, -, -, hsession⟩ := program_anchored_once hlocation "./build/../tool/".toList
  obtain ⟨item, hitem, hpath, hstarts⟩ :=
    hsession [] options ini called root configuration hslash hgiven hconfigure path hname
  have hanchored : Command.anchorProgram called "./build/../tool/".toList =
      "/invoked/build/../tool".toList := by decide +kernel
  have hloads : harness.Loads path.text fs "--arg:x".toList :=
    Scheme.load_eq_ok_iff.mpr ⟨by decide, [45, 45, 97, 114, 103, 58, 120], .utf8, by decide +kernel,
      by decide +kernel, by decide +kernel⟩
  have hplan : (harness.interpreted (Path.ofText "/r".toList) (some path.text)
      "--arg:x".toList).outcome = .ok plan := by
    decide +kernel
  have hprepares : harness.Prepares (Path.ofText "/r".toList) item.path.text fs
      "--arg:x".toList plan := by
    rw [hpath]
    exact ⟨hloads, Harness.prepare_of_written hplan rfl⟩
  obtain ⟨launch, hlaunch⟩ := List.exists_mem_of_ne_nil _ (hstarts.launched _ _ _ _ _ hprepares)
  obtain ⟨hhead, -⟩ := hstarts.noOther _ _ _ launch hlaunch
  exact ⟨hlocation, hslash, hname, configuration, item, launch, hconfigure, hitem, hlaunch,
    hhead.trans (congrArg some hanchored)⟩

end Session

end SchemeCheck

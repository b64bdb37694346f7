import SchemeCheck.Invocation
import SchemeCheck.Proofs.Execution.Building
import SchemeCheck.Proofs.Execution.Completion
import SchemeCheck.Proofs.FileSystem.Frame
import SchemeCheck.Proofs.FileSystem.Path
import SchemeCheck.Proofs.Scheme.Reading

/-!
# SchemeCheck.Proofs.Staging

The stages of an invocation, and what a stage that fails leaves behind.  An
invocation ends in one of four ways: the scheme has no plan
(`execute_of_rejected`), a file cannot be written (`execute_of_unwritten`), no
command can be built (`execute_of_unbuilt`), or the program is launched
(`execute_of_built`).  Only the last one launches anything, and by then the
other stages are over: `execute_staged`.
-/

namespace SchemeCheck

/-- All that has to succeed for a scheme to be read. -/
theorem Scheme.load_eq_ok_iff {fs : FileSystem} {cwd : Place} {encoding scheme : Text}
    {path : Path} :
    load fs cwd encoding path = .ok scheme ↔
      encoding.contains '\x00' = false ∧ ∃ bytes found, fs.read cwd path.text = .ok bytes ∧
        Encoding.lookup encoding = .ok found ∧ found.decodeFile bytes = .ok scheme := by
  constructor
  · intro h
    unfold load at h
    split at h
    · cases h
    · next hnull =>
      split at h
      · cases h
      · next bytes hread =>
        split at h
        · cases h
        · next found hlookup =>
          split at h
          · cases h
          · next text hdecode =>
            cases h
            exact ⟨Bool.eq_false_iff.mpr hnull, bytes, found, hread, hlookup, hdecode⟩
  · rintro ⟨hnull, bytes, found, hread, hlookup, hdecode⟩
    simp only [load, hnull, hread, hlookup, hdecode, Bool.false_eq_true, if_false]

namespace Harness

open Invocation (Failure)

/-- The scheme of an invocation, interpreted. -/
def interpreted (harness : Harness) (root : Path) (filename : Option Text) (scheme : Text) :
    Scheme.Progress Scheme.Plan :=
  Scheme.interpret (harness.rules root filename) scheme

/-- The files of a plan, written below the root that was allocated for it. -/
def written (harness : Harness) (root : Path) (plan : Scheme.Plan) (fs : FileSystem) :
    Fixture.Done Fixture.Failure (List Place) :=
  Fixture.materialize harness.cwd plan.rootDir harness.settings.encoding plan.files
    (harness.allocate root fs)

variable {harness : Harness} {root : Path} {program : Text}
  {adjustments : List Command.Adjustment} {filename : Option Text} {scheme : Text}
  {fs : FileSystem} {plan : Scheme.Plan} {command : Command}

/-! ## The ends of an invocation -/

theorem execute_of_rejected {cause : Scheme.Failure}
    (h : (harness.interpreted root filename scheme).outcome = .error cause) :
    harness.execute root program adjustments filename scheme fs =
      { fs := harness.allocate root fs
        root := some root
        warnings := (harness.interpreted root filename scheme).warnings
        result := .error (.scheme cause) } := by
  unfold interpreted at h ⊢
  simp only [execute, prepare, h]

theorem execute_of_unwritten {failure : Fixture.Failure}
    (h : (harness.interpreted root filename scheme).outcome = .ok plan)
    (hwritten : (harness.written root plan fs).result = .error failure) :
    harness.execute root program adjustments filename scheme fs =
      { fs := (harness.written root plan fs).fs
        root := some root
        warnings := (harness.interpreted root filename scheme).warnings
        result := .error (.fixture failure) } := by
  unfold interpreted at h ⊢
  unfold written at hwritten ⊢
  simp only [execute, prepare, h, hwritten, Except.mapError, Except.map]

/-- What is prepared is a plan whose files have been written. -/
theorem prepare_of_written {places : List Place}
    (h : (harness.interpreted root filename scheme).outcome = .ok plan)
    (hwritten : (harness.written root plan fs).result = .ok places) :
    (harness.prepare root filename scheme fs).result = .ok plan := by
  unfold interpreted at h
  unfold written at hwritten
  simp only [prepare, h, hwritten, Except.mapError, Except.map]

theorem execute_of_unbuilt {places : List Place} {cause : Command.Failure}
    (h : (harness.interpreted root filename scheme).outcome = .ok plan)
    (hwritten : (harness.written root plan fs).result = .ok places)
    (hcommand : harness.command program adjustments plan = .error cause) :
    harness.execute root program adjustments filename scheme fs =
      { fs := (harness.written root plan fs).fs
        root := some root
        warnings := (harness.interpreted root filename scheme).warnings
        result := .error (.command cause) } := by
  unfold interpreted at h ⊢
  unfold written at hwritten ⊢
  simp only [execute, prepare, h, hwritten, Except.mapError, Except.map, hcommand]

theorem execute_of_built {places : List Place}
    (h : (harness.interpreted root filename scheme).outcome = .ok plan)
    (hwritten : (harness.written root plan fs).result = .ok places)
    (hcommand : harness.command program adjustments plan = .ok command) :
    harness.execute root program adjustments filename scheme fs =
      let run := Execution.run harness.starter command
      { fs := (harness.written root plan fs).fs
        root := some root
        warnings := (harness.interpreted root filename scheme).warnings
        launches := [run.launch]
        scene := some (harness.written root plan fs).fs
        result := (run.result.mapError .execution).bind (judge plan filename scheme) } := by
  unfold interpreted at h ⊢
  unfold written at hwritten ⊢
  simp only [execute, prepare, h, hwritten, Except.mapError, Except.map, hcommand]

/-- Either nothing is launched, or all stages before the launch have come to
something. -/
theorem execute_cases (harness : Harness) (root : Path) (program : Text)
    (adjustments : List Command.Adjustment) (filename : Option Text) (scheme : Text)
    (fs : FileSystem) :
    ((harness.execute root program adjustments filename scheme fs).launches = [] ∧
      ∀ text, (harness.execute root program adjustments filename scheme fs).result ≠
        .error (.mismatch text)) ∨
    ∃ plan places command,
      (harness.interpreted root filename scheme).outcome = .ok plan ∧
      (harness.written root plan fs).result = .ok places ∧
      harness.command program adjustments plan = .ok command := by
  cases hplan : (harness.interpreted root filename scheme).outcome with
  | error cause =>
      rw [execute_of_rejected hplan]
      exact .inl ⟨rfl, nofun⟩
  | ok plan =>
      cases hwritten : (harness.written root plan fs).result with
      | error failure =>
          rw [execute_of_unwritten hplan hwritten]
          exact .inl ⟨rfl, nofun⟩
      | ok places =>
          cases hcommand : harness.command program adjustments plan with
          | error cause =>
              rw [execute_of_unbuilt hplan hwritten hcommand]
              exact .inl ⟨rfl, nofun⟩
          | ok command => exact .inr ⟨plan, places, command, rfl, hwritten, hcommand⟩

/-! ## Scheme files -/

section Files

variable (harness : Harness) (root : Path) (filename : Text) (fs : FileSystem)

/-- The scheme file is read. -/
def Loads (scheme : Text) : Prop :=
  Scheme.load fs harness.cwd harness.settings.encoding (Path.ofText filename) = .ok scheme

/-- The scheme file is read, it has the plan, and the files of the plan are written. -/
def Prepares (scheme : Text) (plan : Scheme.Plan) : Prop :=
  harness.Loads filename fs scheme ∧
    (harness.prepare root (some filename) scheme fs).result = .ok plan

end Files

/-- A scheme that was read from a file is run under the name of the file. -/
theorem executeFile_of_loads {filename : Text} (h : harness.Loads filename fs scheme) :
    harness.executeFile root program [] filename fs =
      harness.execute root program [] (some filename) scheme fs := by
  unfold executeFile
  rw [h]

/-! ## What is launched -/

/-- The plan is the one that is read with the root, and names the root. -/
theorem plan_of_interpreted
    (h : (harness.interpreted root filename scheme).outcome = .ok plan) :
    plan = Scheme.Reading.plan root.text scheme := by
  obtain ⟨state, hran, rfl⟩ := Scheme.interpret_ok h
  exact Scheme.Reading.plan_flushed (Scheme.Reading.reads_of_ran hran)

theorem rootDir_of_interpreted {location : Text}
    (h : (harness.interpreted (Path.ofText location) filename scheme).outcome = .ok plan) :
    plan.rootDir = Path.ofText location := by
  rw [plan_of_interpreted h]
  exact Path.ofText_text location

/-- Built-in adjustments leave the input of a plan and the encoding of the
settings to the command. -/
theorem input_of_command (hbuiltIn : ∀ adjustment ∈ adjustments, adjustment.isBuiltIn = true)
    (h : harness.command program adjustments plan = .ok command) :
    command.stdin = plan.stdin ∧ command.encoding = harness.settings.encoding :=
  have hkeeps := Harness.keeps_of_command hbuiltIn h
  ⟨hkeeps.stdin, hkeeps.encoding⟩

/-- Without adjustments, what is launched is the program on some plan. -/
theorem start_of_launched {launch : Execution.Launch}
    (h : launch ∈ (harness.execute root program [] filename scheme fs).launches) :
    ∃ plan, launch.start = Execution.Start.ofCommand (harness.unadjusted program plan) := by
  obtain ⟨hnone, -⟩ | ⟨plan, places, command, hplan, hwritten, hcommand⟩ :=
    execute_cases harness root program [] filename scheme fs
  · rw [hnone] at h
    cases h
  · rw [execute_of_built hplan hwritten hcommand] at h
    obtain rfl := List.mem_singleton.mp h
    refine ⟨plan, (Execution.start_run harness.starter command).trans ?_⟩
    rw [command_eq] at hcommand
    split at hcommand
    · cases hcommand
    · rw [← Except.ok.inj hcommand]

/-- A program that has a name is launched as soon as its plan is prepared. -/
theorem launches_ne_nil (hprogram : program ≠ [])
    (hprepare : (harness.prepare root filename scheme fs).result = .ok plan) :
    (harness.execute root program [] filename scheme fs).launches ≠ [] := by
  simp only [execute, hprepare, command_of_ne_nil hprogram]
  exact List.cons_ne_nil _ _

/-- What has happened when a program is launched on a plan. -/
structure Prepared (harness : Harness) (root : Path) (program : Text)
    (adjustments : List Command.Adjustment) (scheme : Text) (fs : FileSystem)
    (scene? : Option FileSystem) (launch : Execution.Launch) (plan : Scheme.Plan)
    (command : Command) : Prop where
  /-- The plan is for the root, and its placeholders stand for the root that it
  names. -/
  rootDir : plan.rootDir = root
  reading : plan = Scheme.Reading.plan plan.rootDir.text scheme
  /-- All its files are written, and nothing has happened since. -/
  files : ∃ places, (harness.written root plan fs).result = .ok places
  scene : scene? = some (harness.written root plan fs).fs
  /-- The process is the one of the command for the plan. -/
  built : harness.command program adjustments plan = .ok command
  start : launch.start = Execution.Start.ofCommand command
  /-- What it is fed is the input of the plan. -/
  input : ∀ bytes, launch.fed = some bytes → ∃ encoding,
    Encoding.lookup harness.settings.encoding = .ok encoding ∧
      encoding.encode plan.stdin = .ok bytes
  stdin : plan.stdin = (Scheme.Reading.streamOf .stdin (Text.lines scheme)).flatten

theorem prepared_of_launched {location : Text}
    (hbuiltIn : ∀ adjustment ∈ adjustments, adjustment.isBuiltIn = true)
    {launch : Execution.Launch}
    (hlaunch : launch ∈ (harness.execute (Path.ofText location) program adjustments filename scheme
      fs).launches) :
    ∃ plan command,
      (harness.interpreted (Path.ofText location) filename scheme).outcome = .ok plan ∧
      Prepared harness (Path.ofText location) program adjustments scheme fs
        (harness.execute (Path.ofText location) program adjustments filename scheme fs).scene
        launch plan command := by
  obtain ⟨hnone, -⟩ | ⟨plan, places, command, hplan, hwritten, hcommand⟩ :=
    execute_cases harness (Path.ofText location) program adjustments filename scheme fs
  · rw [hnone] at hlaunch
    cases hlaunch
  · have hread := plan_of_interpreted hplan
    have hroot := rootDir_of_interpreted hplan
    obtain ⟨hstdin, hencoding⟩ := input_of_command hbuiltIn hcommand
    rw [execute_of_built hplan hwritten hcommand] at hlaunch ⊢
    obtain rfl := List.mem_singleton.mp hlaunch
    refine ⟨plan, command, hplan, ?_⟩
    constructor
    case rootDir => exact hroot
    case reading => rw [hroot]; exact hread
    case files => exact ⟨places, hwritten⟩
    case scene => rfl
    case built => exact hcommand
    case start => exact Execution.start_run harness.starter command
    case input =>
        intro bytes hfed
        obtain ⟨encoding, hlookup, hencode⟩ := Execution.encode_of_fed hfed
        exact ⟨encoding, hencoding ▸ hlookup, hstdin ▸ hencode⟩
    case stdin => rw [hread]; rfl

/-- A mismatch is reported only of a process that was started. -/
theorem started_of_mismatch {text : Capture}
    (h : (harness.execute root program adjustments filename scheme fs).result =
      .error (.mismatch text)) :
    ∃ launch, (harness.execute root program adjustments filename scheme fs).launches = [launch] ∧
      launch.started = true ∧ launch.waited = true := by
  obtain ⟨-, hother⟩ | ⟨plan, places, command, hplan, hwritten, hcommand⟩ :=
    execute_cases harness root program adjustments filename scheme fs
  · exact absurd h (hother text)
  · rw [execute_of_built hplan hwritten hcommand] at h ⊢
    refine ⟨_, rfl, ?_⟩
    cases hrun : (Execution.run harness.starter command).result with
    | error failure => simp [hrun, Except.mapError, Except.bind] at h
    | ok outcome => exact Execution.waited_of_ok hrun

/-! ## Stages -/

/-- **Staging**: below a fresh root, at most one program is launched, and only
after all stages before it; a stage that fails leaves what these have done.  A
program that is launched is the one that the plan asks for, in the file system
that the plan's files have made. -/
theorem execute_staged (harness : Harness) {location : Text} (program : Text)
    {adjustments : List Command.Adjustment}
    (hbuiltIn : ∀ adjustment ∈ adjustments, adjustment.isBuiltIn = true)
    (filename : Option Text) (scheme : Text) {fs : FileSystem}
    (hplain : fs.Plain (fs.resolve harness.cwd (Path.ofText location)))
    (hbare : fs.Bare (fs.resolve harness.cwd (Path.ofText location))) :
    let root := Path.ofText location
    let interpreted := harness.interpreted root filename scheme
    let invocation := harness.execute root program adjustments filename scheme fs
    invocation.launches.length ≤ 1 ∧
    (∀ cause, interpreted.outcome = .error cause →
      invocation.result = .error (.scheme cause) ∧
      invocation.fs.Bare (fs.resolve harness.cwd root) ∧ invocation.launches = []) ∧
    (∀ plan failure, interpreted.outcome = .ok plan →
      (harness.written root plan fs).result = .error failure →
      invocation.result = .error (.fixture failure) ∧
      invocation.fs = (harness.written root plan fs).fs ∧ invocation.launches = []) ∧
    (∀ plan places cause, interpreted.outcome = .ok plan →
      (harness.written root plan fs).result = .ok places →
      harness.command program adjustments plan = .error cause →
      invocation.result = .error (.command cause) ∧
      invocation.fs = (harness.written root plan fs).fs ∧ invocation.launches = []) ∧
    (∀ text, invocation.result = .error (.mismatch text) →
      ∃ launch, invocation.launches = [launch] ∧ launch.started = true ∧ launch.waited = true) ∧
    (∀ launch ∈ invocation.launches, ∃ plan command, interpreted.outcome = .ok plan ∧
      Prepared harness root program adjustments scheme fs invocation.scene launch plan
        command) := by
  intro root interpreted invocation
  refine ⟨?atMostOne, ?rejected, ?unwritten, ?unbuilt, fun text => started_of_mismatch,
    fun launch => prepared_of_launched hbuiltIn⟩
  case atMostOne =>
    obtain ⟨hnone, -⟩ | ⟨plan, places, command, hplan, hwritten, hcommand⟩ :=
      execute_cases harness root program adjustments filename scheme fs
    · simp [invocation, hnone]
    · simp [invocation, execute_of_built hplan hwritten hcommand]
  case rejected =>
    intro cause hcause
    simp only [invocation, execute_of_rejected hcause, true_and, and_true]
    exact hbare.makeDirectories hplain
  case unwritten =>
    intro plan failure hplan hfailure
    simp only [invocation, execute_of_unwritten hplan hfailure, and_self]
  case unbuilt =>
    intro plan places cause hplan hwritten hcause
    simp only [invocation, execute_of_unbuilt hplan hwritten hcause, and_self]

/-- A program that is launched with its input, and a scheme that is rejected
after it has opened two files. -/
theorem execute_staged_adjusted :
    let harness : Harness :=
      { settings := { strict := true, maxLineSize := 80, encoding := "utf-8".toList }
        escalate := true, cwd := [], ambient := [("D".toList, "d".toList)]
        starter := fun _ => .ok { stdout := id, stderr := fun _ => [], code := .valid 0 } }
    let root := Path.ofText "/r//".toList
    let fs : FileSystem := { entries := [(["r".toList], .directory)] }
    let adjustments := [.withArgs [.str "-v".toList], .withoutEnv [.str "D".toList]]
    let scheme := "--arg:{dir}\n--env:E={dir}\n--stdin\n{dir}\n".toList
    let launched := harness.execute root "p".toList adjustments none scheme fs
    let launch : Execution.Launch :=
      { start := { argv := ["p".toList, "-v".toList, "/r".toList], executable := none
                   cwd := root, env := [("E".toList, "/r".toList)] }
        started := true, fed := some [123, 100, 105, 114, 125, 10], waited := true }
    let rejected := harness.execute root "p".toList adjustments none
      "--file:a/b\nx\n--file:c\n--other\n".toList fs
    launched.launches = [launch] ∧
    (∃ plan command,
      Prepared harness root "p".toList adjustments scheme fs launched.scene launch plan command) ∧
    rejected.launches = [] ∧ rejected.fs.entry? ["r".toList, "a".toList] = none := by
  intro harness root fs adjustments scheme launched launch rejected
  have hbuiltIn : ∀ adjustment ∈ adjustments, adjustment.isBuiltIn = true := by
    simp [adjustments, Command.Adjustment.isBuiltIn]
  have hbase : fs.resolve harness.cwd root = ["r".toList] := by
    decide +kernel
  have hplain : fs.Plain (fs.resolve harness.cwd root) :=
    (FileSystem.Valid.of_keys (by decide +kernel)).plain (by decide +kernel)
  have hbare : fs.Bare (fs.resolve harness.cwd root) := by
    rw [hbase]
    intro other hbelow hne
    have hroot : other ≠ [] := fun e => by simp [e] at hbelow
    simp only [FileSystem.entry?, Table.get?, fs, hroot, if_false, List.find?_cons, hne.symm,
      decide_false, List.find?_nil, Option.map_none]
  have hlaunch : launched.launches = [launch] := by
    decide +kernel
  have hcause : (harness.interpreted root none
      "--file:a/b\nx\n--file:c\n--other\n".toList).outcome =
      .error (.escalated { remark := .unknownDirective "--other".toList, lineNum := 3
                           filename := none }) := by
    decide +kernel
  obtain ⟨-, -, -, -, -, hlaunched⟩ :=
    execute_staged harness "p".toList hbuiltIn none scheme hplain hbare
  obtain ⟨-, hrejected, -⟩ := execute_staged harness "p".toList hbuiltIn none
    "--file:a/b\nx\n--file:c\n--other\n".toList hplain hbare
  obtain ⟨plan, command, -, hprepared⟩ :=
    hlaunched launch (hlaunch ▸ List.mem_singleton_self launch)
  obtain ⟨-, hempty, hnone⟩ := hrejected _ hcause
  exact ⟨hlaunch, ⟨plan, command, hprepared⟩, hnone,
    hempty _ (by rw [hbase]; decide) (by rw [hbase]; decide)⟩

end Harness

end SchemeCheck

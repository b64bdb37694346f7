import Mathlib.Control.Monad.Basic
import SchemeCheck.CommandLine.Request
import SchemeCheck.Proofs.FileSystem.Frame

/-!
# SchemeCheck.Proofs.CommandLine.Request

Command lines without options.  A word that does not start with a dash is an
operand wherever it stands (`readSoFar_operands`), and a file is found under its
name in the directory that it lies in (`locate_of_file`); so `run` with a
program and such a file asks for just that: `read_run`.
-/

namespace SchemeCheck

namespace FileSystem

variable {fs : FileSystem} {cwd : Place} {name : Text} {content : List UInt8}

/-- A file is found under its name in the directory that it lies in. -/
theorem locate_of_file (hdir : fs.isDirectory cwd = true)
    (hentry : fs.entry? (cwd ++ [name]) = some (.file content))
    (hname : stepsOf name = [name] ∧ name ≠ ['.'] ∧ name ≠ ['.', '.'])
    (hrelative : (Path.ofText name).isAbsolute = false) (hsize : sizeOf name ≤ maxNameSize) :
    fs.locate cwd name = .ok (cwd ++ [name]) := by
  obtain ⟨hsteps, hdot, hdots⟩ := hname
  have hne : name ≠ [] := by
    rintro rfl
    revert hsteps
    decide
  have hshort : ¬ maxPathSize ≤ sizeOf name := by
    unfold maxPathSize
    unfold maxNameSize at hsize
    omega
  have hfits : ¬ maxNameSize < sizeOf name := Nat.not_lt.mpr hsize
  have hlink : fs.link? (cwd ++ [name]) = none := by simp [link?, hentry]
  rw [locate, if_neg (by simp [hne]), if_neg hshort, hrelative, hsteps]
  simp only [walk_cons ⟨hdot, hdots⟩ hlink, walk_nil, hdir, hfits, hentry, Bool.false_eq_true,
    reduceCtorEq, if_false]

theorem read_of_locate {text : Text} {place : Place} (hlocate : fs.locate cwd text = .ok place)
    (hentry : fs.entry? place = some (.file content)) : fs.read cwd text = .ok content := by
  simp only [read, hlocate, bind, Except.bind, hentry]

end FileSystem

namespace CommandLine

variable {fs : FileSystem} {cwd : Place}

theorem fileOperand_of_locate {name : Text} {place : Place} {content : List UInt8}
    (hlocate : fs.locate cwd name = .ok place)
    (hentry : fs.entry? place = some (.file content)) :
    fileOperand fs cwd name = .ok (Path.ofText name) := by
  simp [fileOperand, hlocate, FileSystem.isDirectory, hentry]

/-- Words that do not start with a dash are operands. -/
theorem readSoFar_operands {options : List Known} {words : List Text}
    (h : ∀ word ∈ words, word.head? ≠ some '-') (given : Given) :
    readSoFar options true none given words =
      ({ given with words := given.words ++ words }, none) := by
  induction words generalizing given with
  | nil => simp [readSoFar]
  | cons word rest ih =>
      obtain ⟨hword, hrest⟩ := List.forall_mem_cons.mp h
      have hdashes : word ≠ ['-', '-'] := by
        rintro rfl
        exact hword rfl
      rw [readSoFar, if_neg hdashes]
      simp only [hword, decide_false, Bool.false_and, Bool.false_eq_true, if_false, if_true,
        ih hrest]
      simp

/-- **Two operands of `run`** are a program and a scheme file. -/
theorem read_run {program name : Text} {path : Path} (hprogram : program.head? ≠ some '-')
    (hname : name.head? ≠ some '-') (hfile : fileOperand fs cwd name = .ok path) :
    read fs cwd ["run".toList, program, name] = .ok (.run false program path) := by
  have hgroup : readGroup ["run".toList, program, name] = .ok ["run".toList, program, name] := rfl
  have hwords : readWords Command.run.usage.options true [program, name] =
      .ok { words := [program, name] } := by
    rw [readWords, readSoFar_operands (by simp [hprogram, hname])]
    rfl
  have hcommand : Command.all.find? (fun entry => decide (entry.1.toList = "run".toList)) =
      some ("run", .run) := by decide
  simp only [read, hgroup, hcommand, Command.read, hwords, bind, Except.bind, List.isEmpty_cons]
  simp [Given.has, Command.request, operand, hfile, noMore, bind, Except.bind, pure, Except.pure,
    Except.mapError]

end CommandLine

end SchemeCheck

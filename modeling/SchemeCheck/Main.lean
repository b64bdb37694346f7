import SchemeCheck.CommandLine.Call

/-!
# SchemeCheck.Main

The command line as a program: the words, the settings in the environment and
the files that the words name are read, the call is made, and what it prints
is printed.  Programs cannot be started from here, so `run` ends with the
failure to start one.
-/

namespace SchemeCheck.Front

/-- The environment variables that settings are read from. -/
def settingVariables : List String :=
  ["EXECTEST_STRICT", "EXECTEST_MAX_LINE_SIZE", "EXECTEST_ENCODING"]

/-- The settings in the environment. -/
def readAmbient : IO (Table Text Text) := do
  let found ← settingVariables.mapM fun name => do
    return (name.toList, (← IO.getEnv name).map String.toList)
  return found.filterMap fun (name, value?) => value?.map fun value => (name, value)

/-- What stands at the path that a word names, if it names one. -/
def readEntry (word : String) : IO (Option Entry) := do
  match ← (IO.FS.readBinFile word).toBaseIO with
  | .ok bytes => return some (.file bytes.toList)
  | .error (.inappropriateType ..) => return some .directory
  | .error _ => return none

/-- The file system as far as the words name it. -/
def readFiles (cwd : Place) (words : List String) : IO FileSystem :=
  words.foldlM (fun fs word => do
    let place := fs.resolve cwd (Path.ofText word.toList)
    match ← readEntry word with
    | some entry => return (fs.makeDirectories place.dropLast).1.put place entry
    | none => return fs) { entries := [] }

/-- A starter that starts nothing. -/
def noStarter : Execution.Starter := fun _ =>
  .error (.value "programs cannot be started here".toList)

end SchemeCheck.Front

open SchemeCheck in
/-- Call the command line with the words of the program. -/
def main (words : List String) : IO UInt32 := do
  let cwd := (Path.ofText (← IO.currentDir).toString.toList).names
  let surroundings : CommandLine.Surroundings :=
    { cwd := cwd
      ambient := ← Front.readAmbient
      starter := Front.noStarter
      escalate := false
      root := Path.ofText "/tmp/exectest".toList }
  let call := CommandLine.call surroundings (words.map String.toList) (← Front.readFiles cwd words)
  IO.print (String.ofList (CommandLine.printed call.stdout))
  IO.eprint (String.ofList (CommandLine.printed call.stderr))
  call.warnings.forM fun warning => IO.eprintln (String.ofList warning.text)
  match call.exit with
  | .ok code => return UInt32.ofNat code
  | .error _ =>
    IO.eprintln "The call ended with a failure that no command handles."
    return 1

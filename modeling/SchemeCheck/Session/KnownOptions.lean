import SchemeCheck.FileSystem.Basic
import SchemeCheck.Session.Arguments

/-!
# SchemeCheck.Session.KnownOptions

The options of a test session's command line.  Only a few of them bear on the
configuration; the others are known so that their values are told from
operands and malformed ones are refused.  Every option is provided by one
component of the session, and goes with it.
-/

namespace SchemeCheck.Session

/-- What the value of an option must be. -/
inductive Form where
  | anything
  | whole
  | real
  | oneOf (words : List String)
  /-- One of some words, in any case. -/
  | oneOfAnyCase (words : List String)
  /-- An existing directory. -/
  | directory
  /-- Something else than an existing directory. -/
  | noDirectory
  /-- A directory that does not hold the current one. -/
  | elsewhere
  /-- Two names with a colon between them. -/
  | twoNames
  deriving DecidableEq

/-- What an option means for the configuration of a session. -/
inductive Meaning where
  | nothing
  /-- Scheme files are checked strictly. -/
  | strict
  /-- The program that scheme files are run against. -/
  | program
  /-- A value that counts before the one of the configuration file. -/
  | override
  /-- The given entry counts before the one of the configuration file. -/
  | overrideBy (entry : String)
  /-- The configuration file. -/
  | file
  /-- The root of the session. -/
  | root
  /-- What becomes of warnings. -/
  | filter
  /-- Only help is asked for; what follows does not count. -/
  | help
  deriving DecidableEq

/-- The role of an option. -/
structure Role where
  form : Form
  meaning : Meaning
  /-- The component that provides the option. -/
  provider : String

/-! ## The table -/

/-- The options without a value. -/
def flags : List (String × List String) :=
  [ ("main",
      ["-x", "--exitfirst", "--collectonly", "--collect-only", "--co", "--pyargs", "--noconftest",
       "--keepduplicates", "--keep-duplicates", "--collect-in-virtualenv",
       "--continue-on-collection-errors"]),
    ("mark", ["--markers"]),
    ("fixtures", ["--fixtures", "--funcargs", "--fixtures-per-test"]),
    ("helpconfig",
      ["--version", "-V", "--traceconfig", "--trace-config", "--disable-plugin-autoload"]),
    ("terminal",
      ["-v", "--verbose", "--no-header", "--no-summary", "--no-fold-skipped",
       "--force-short-summary", "-q", "--quiet", "--disable-warnings",
       "--disable-pytest-warnings", "-l", "--showlocals", "--no-showlocals", "--xfail-tb",
       "--fulltrace", "--full-trace"]),
    ("debugging", ["--pdb", "--trace"]),
    ("capture", ["-s"]),
    ("skipping", ["--runxfail"]),
    ("doctest",
      ["--doctest-modules", "--doctest-ignore-import-errors", "--doctest-continue-on-failure"]),
    ("cacheprovider",
      ["--lf", "--last-failed", "--ff", "--failed-first", "--nf", "--new-first",
       "--cache-clear"]),
    ("setuponly", ["--setuponly", "--setup-only", "--setupshow", "--setup-show"]),
    ("setupplan", ["--setupplan", "--setup-plan"]),
    ("stepwise",
      ["--sw", "--stepwise", "--sw-skip", "--stepwise-skip", "--sw-reset",
       "--stepwise-reset"]) ]

/-- The options with any value. -/
def freeOptions : List (String × List String) :=
  [ ("main", ["--ignore", "--ignore-glob", "--deselect"]),
    ("mark", ["-k", "-m"]),
    ("helpconfig", ["-p"]),
    ("terminal", ["-r"]),
    ("junitxml", ["--junitprefix", "--junit-prefix"]),
    ("doctest", ["--doctest-glob"]),
    ("logging",
      ["--log-level", "--log-format", "--log-date-format", "--log-cli-level",
       "--log-cli-format", "--log-cli-date-format", "--log-file", "--log-file-level",
       "--log-file-format", "--log-file-date-format", "--log-auto-indent", "--log-disable"]) ]

/-- The options with a value of a form. -/
def formedOptions : List (String × List String × Form) :=
  [ ("main", ["--maxfail"], .whole),
    ("main", ["--confcutdir"], .directory),
    ("main", ["--basetemp"], .elsewhere),
    ("main", ["--import-mode"], .oneOf ["prepend", "append", "importlib"]),
    ("runner", ["--durations"], .whole),
    ("runner", ["--durations-min"], .real),
    ("terminal", ["--verbosity"], .whole),
    ("terminal", ["--tb"], .oneOf ["auto", "long", "short", "no", "line", "native"]),
    ("terminal", ["--show-capture"], .oneOf ["no", "stdout", "stderr", "log", "all"]),
    ("terminal", ["--color"], .oneOf ["yes", "no", "auto"]),
    ("terminal", ["--code-highlight"], .oneOf ["yes", "no"]),
    ("debugging", ["--pdbcls"], .twoNames),
    ("capture", ["--capture"], .oneOf ["fd", "sys", "no", "tee-sys"]),
    ("junitxml", ["--junitxml", "--junit-xml"], .noDirectory),
    ("pastebin", ["--pastebin"], .oneOf ["failed", "all"]),
    ("assertion", ["--assert"], .oneOf ["rewrite", "plain"]),
    ("doctest", ["--doctest-report"],
      .oneOfAnyCase ["none", "cdiff", "ndiff", "udiff", "only_first_failure"]),
    ("cacheprovider", ["--lfnf", "--last-failed-no-failures"], .oneOf ["all", "none"]),
    ("logging", ["--log-file-mode"], .oneOf ["w", "a"]) ]

/-- The component that scheme files are checked by. -/
def ownProvider : String := "exectest"

/-- The options that bear on the configuration. -/
def meaningfulOptions : List (KnownOption Role) :=
  [ own ["--exectest-strict"] .none .strict,
    own ["--exectest-program"] .one .program,
    general "helpconfig" ["-o", "--override-ini"] .one .override,
    general "helpconfig" ["-h", "--help"] .none .help,
    general "main" ["-c", "--config-file"] .one .file,
    general "main" ["--rootdir"] .one .root,
    general "main" ["-W", "--pythonwarnings"] .one .filter,
    general "main" ["--strict"] .none (.overrideBy "strict=true"),
    general "main" ["--strict-config"] .none (.overrideBy "strict_config=true"),
    general "main" ["--strict-markers"] .none (.overrideBy "strict_markers=true"),
    general "helpconfig" ["--debug"] .atMostOne .nothing,
    general "cacheprovider" ["--cache-show"] .atMostOne .nothing ]
where
  general (provider : String) (names : List String) (arity : Arity) (meaning : Meaning) :
      KnownOption Role :=
    { names := names
      arity := arity
      role := { form := .anything, meaning := meaning, provider := provider } }
  own (names : List String) (arity : Arity) (meaning : Meaning) : KnownOption Role :=
    general ownProvider names arity meaning

/-- Every option. -/
def allOptions : List (KnownOption Role) :=
  meaningfulOptions ++
    flags.map (fun (provider, names) => plain provider names .none .anything) ++
    freeOptions.flatMap (fun (provider, names) =>
      names.map fun name => plain provider [name] .one .anything) ++
    formedOptions.map (fun (provider, names, form) => plain provider names .one form)
where
  plain (provider : String) (names : List String) (arity : Arity) (form : Form) :
      KnownOption Role :=
    { names := names
      arity := arity
      role := { form := form, meaning := .nothing, provider := provider } }

/-! ## Values -/

/-- Whether a place lies at or above another one. -/
def holds (above place : Place) : Bool :=
  above.isPrefixOf place

/-- Whether a directory stands where a written path leads. -/
def isDirectoryAt (fs : FileSystem) (cwd : Place) (path : Text) : Bool :=
  match fs.locate cwd path with
  | .ok place => fs.isDirectory place
  | .error _ => false

/-- Whether a value is of a form. -/
def Form.accepts (fs : FileSystem) (cwd : Place) (value : Text) : Form → Bool
  | anything => true
  | whole => Text.isWhole value
  | real => Text.isReal value
  | oneOf words => words.contains (String.ofList value)
  | oneOfAnyCase words => words.contains (String.ofList (value.map Char.toLower))
  | directory => isDirectoryAt fs cwd value
  | noDirectory => !isDirectoryAt fs cwd value
  | elsewhere =>
    let path := Path.ofText value
    let written := if path.isAbsolute then path.names else cwd ++ path.names
    !value.isEmpty && !holds written cwd && !holds (fs.resolve cwd path) (fs.resolve [] (Path.ofNames cwd))
  | twoNames => (Text.splitOn ':' value).length = 2

/-- Whether the values of all options that were read are of their forms. -/
def Reading.isWellFormed (fs : FileSystem) (cwd : Place) (reading : Reading Role) : Bool :=
  reading.given.all fun (role, value?) =>
    match value? with
    | some value => role.form.accepts fs cwd value
    | none => true

/-! ## Components -/

/-- The components that a session cannot do without. -/
def essentialProviders : List String :=
  ["mark", "main", "runner", "fixtures", "helpconfig"]

/-- The components that come with a session. -/
def providers : List String :=
  essentialProviders ++
    ["python", "terminal", "debugging", "unittest", "capture", "skipping", "legacypath", "tmpdir",
     "monkeypatch", "recwarn", "pastebin", "assertion", "junitxml", "doctest", "cacheprovider",
     "setuponly", "setupplan", "stepwise", "unraisableexception", "threadexception", "warnings",
     "logging", "reports", "faulthandler", "pytester", "pytester_assertions", "subtests",
     "terminalprogress"]

/-- The names of components in the words of a command line: what follows `-p`,
in the same word or as the next one. -/
def requestedProviders : List Text → List Text
  | [] => []
  | word :: rest =>
    if word = ['-', 'p'] then
      match rest with
      | [] => []
      | name :: rest => Text.trim name :: requestedProviders rest
    else
      match Text.stripFront? ['-', 'p'] word with
      | some name => Text.trim name :: requestedProviders rest
      | none => requestedProviders rest

/-- The component that a request excludes, if it excludes one. -/
def excluded? (request : Text) : Option String :=
  (Text.stripFront? "no:".toList request).map String.ofList

/-- Whether an excluded component takes another one with it. -/
def excludes (name provider : String) : Bool :=
  name == provider || (name == "cacheprovider" && provider == "stepwise")

/-- The options that are left when components are excluded. -/
def optionsWithout (names : List String) : List (KnownOption Role) :=
  allOptions.filter fun option =>
    option.role.provider == ownProvider ||
      !names.any fun name => excludes name option.role.provider

end SchemeCheck.Session

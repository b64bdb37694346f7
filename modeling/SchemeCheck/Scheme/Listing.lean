import SchemeCheck.Document
import SchemeCheck.Scheme.Plan
import SchemeCheck.Yaml.Writer

/-!
# SchemeCheck.Scheme.Listing

Plans as they are listed for a reader, in YAML or JSON, and the schema that
describes the JSON form.  The text of the scheme is not part of a listing.
-/

namespace SchemeCheck.Scheme

/-- The format of a listing. -/
inductive Format where
  | yaml
  | json
  deriving DecidableEq

def Format.all : List (Text × Format) :=
  [("yaml".toList, yaml), ("json".toList, json)]

/-- A plan as a YAML document. -/
def Plan.node (plan : Plan) : Yaml.Node :=
  .mapping
    [ ("root_dir".toList, .text plan.rootDir.text),
      ("files".toList, .mapping (plan.files.map fun file => (file.1, .text file.2))),
      ("args".toList, .sequence (plan.args.map .text)),
      ("env".toList, .sequence (plan.env.map .text)),
      ("stdin".toList, .text plan.stdin),
      ("stdout".toList, .text plan.stdout),
      ("stderr".toList, .text plan.stderr),
      ("return_code".toList, .plain (Text.ofInt plan.returnCode)) ]

/-- A plan as a JSON document. -/
def Plan.document (plan : Plan) : Document :=
  .table
    [ ("root_dir".toList, .text plan.rootDir.text),
      ("files".toList, .table (plan.files.map fun file => (file.1, .text file.2))),
      ("args".toList, .list (plan.args.map .text)),
      ("env".toList, .list (plan.env.map .text)),
      ("stdin".toList, .text plan.stdin),
      ("stdout".toList, .text plan.stdout),
      ("stderr".toList, .text plan.stderr),
      ("return_code".toList, .number plan.returnCode) ]

/-- The listing of a plan. -/
def Plan.listing (plan : Plan) : Format → Text
  | .yaml => plan.node.render
  | .json => plan.document.written ++ ['\n']

/-! ## Schema -/

def entry (key : String) (value : String) : Text × Document :=
  (key.toList, .text value.toList)

/-- The schema of a field that holds a text, empty by default. -/
def textSchema (title : String) : Document :=
  .table [("default".toList, .text []), entry "title" title, entry "type" "string"]

/-- The schema of a field that holds a list, empty by default. -/
def listSchema (title : String) (items : List (Text × Document)) : Document :=
  .table [("default".toList, .list []), ("items".toList, .table items), entry "title" title,
    entry "type" "array"]

/-- What a plan is, for readers of the schema. -/
def schemaDescription : String :=
  "Fully parsed, substitution-resolved scheme.\n\nAttributes:\n" ++
    "    root_dir: Fixture root the plan was resolved against.\n" ++
    "    files: Relative file path to exact file content.\n" ++
    "    args: Program arguments, excluding the program itself.\n" ++
    "    env: Environment overlay entries, later entries win.\n" ++
    "    stdin: Exact content fed to the program input.\n" ++
    "    stdout: Expected standard output.\n" ++
    "    stderr: Expected standard error.\n" ++
    "    return_code: Expected exit code.\n" ++
    "    scheme: Original scheme text, kept for diagnostics."

/-- The schema of an environment entry. -/
def envEntrySchema : List (Text × Document) :=
  [ entry "description" ("Environment overlay entry in `KEY=VALUE` form. " ++
      "The key must be non-empty; the entry is split on the first `=` sign."),
    ("examples".toList, .list [.text "LANG=C".toList, .text "HOME=\x7bdir\x7d".toList]),
    entry "pattern" "^[^=]+=",
    entry "title" "Environment entry",
    entry "type" "string" ]

/-- The schema of every field of a plan. -/
def fieldSchemas : List (Text × Document) :=
  [ ("root_dir".toList,
      .table [entry "format" "path", entry "title" "Fixture root", entry "type" "string"]),
    ("files".toList,
      .table
        [ ("additionalProperties".toList, .table [entry "type" "string"]),
          entry "description" "Relative file path to exact file content.",
          entry "title" "Fixture files",
          entry "type" "object" ]),
    ("args".toList, listSchema "Arguments" [entry "type" "string"]),
    ("env".toList, listSchema "Environment overlay" envEntrySchema),
    ("stdin".toList, textSchema "Standard input"),
    ("stdout".toList, textSchema "Expected standard output"),
    ("stderr".toList, textSchema "Expected standard error"),
    ("return_code".toList,
      .table [("default".toList, .number 0), entry "title" "Expected return code",
        entry "type" "integer"]),
    ("scheme".toList, textSchema "Scheme source") ]

/-- The JSON schema of plans. -/
def Plan.schema : Document :=
  .table
    [ ("additionalProperties".toList, .truth false),
      entry "description" schemaDescription,
      ("properties".toList, .table fieldSchemas),
      ("required".toList, .list [.text "root_dir".toList]),
      entry "title" "TestPlan",
      entry "type" "object" ]

end SchemeCheck.Scheme

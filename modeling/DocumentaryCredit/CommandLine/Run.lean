/-
A run of the checker as a function of its arguments and of the files it finds: what it shows, the files that it
leaves, and its status, which is 0 when nothing is wrong with what was checked, 1 when something is, and 2 when
it could not be checked.
-/
import DocumentaryCredit.CommandLine.Display
import DocumentaryCredit.CommandLine.Invocation
import DocumentaryCredit.CommandLine.Settings
import DocumentaryCredit.Json.Reader
import DocumentaryCredit.Standards.Shelf

namespace DocumentaryCredit

/-- Why a run cannot do what it is asked for. -/
inductive RunError where
  | logFile (cause : FileError)
  | readSettings (path : String) (cause : FileError)
  /-- The settings are no TOML document, or none of the right shape. -/
  | settings (path : String)
  | standards (directory : String) (cause : StandardsError)
  | read (path : String) (cause : FileError)
  /-- The content of a file is no JSON text, or none of the right shape. -/
  | content (path : String)
  | messageTypeRequired
  | validate (messageType : String) (cause : ValidatorError)
  | message (cause : ValidatorError)
  | parse (path : String) (cause : ValidatorError)
  | write (path : String) (cause : FileError)
deriving DecidableEq

namespace RunError

/-- What was tried, and the messages of what it failed at, from the outside in. -/
def messages : RunError → List String
  | logFile cause => ["failed to initialize logging", cause.toText]
  | readSettings path cause => ["read config " ++ path, cause.toText]
  | settings path => ["parse config " ++ path]
  | standards directory cause => ("load standards from " ++ directory) :: cause.causes
  | read path cause => ["read " ++ path, cause.toText]
  | content path => ["parse " ++ path]
  | messageTypeRequired => ["--message-type is required for a single field map"]
  | validate messageType cause => ("validate MT" ++ messageType) :: cause.causes
  | message cause => cause.causes
  | parse path cause => ("parse " ++ path) :: cause.causes
  | write path cause => ["write " ++ path, cause.toText]

/-- The line that reports the error. -/
def toText (e : RunError) : String := "error: " ++ ": ".intercalate e.messages

end RunError

/-! ## Inputs -/

/-- The values of a message with its type. -/
structure TypedValues where
  messageType : String
  fields : FieldValues

/-- Reads the values of a message with its type. -/
def TypedValues.ofJson? (j : Json) : Option TypedValues := do
  let r ← j.record? ["message_type", "fields"]
  return ⟨← r.required "message_type" Json.text?, ← r.required "fields" FieldValues.ofJson?⟩

/-- The input of a validation: several messages with their types, or the values of one. -/
inductive ValidationInput where
  | batch (messages : List TypedValues)
  | single (fields : FieldValues)

/-- Reads the input of a validation. -/
def ValidationInput.ofJson? (j : Json) : Option ValidationInput :=
  ((Json.list? TypedValues.ofJson? j).map batch).orElse fun _ => (FieldValues.ofJson? j).map single

/-- The messages of an input; the type of one that has none must be given. -/
def ValidationInput.messages (messageType : Option String) : ValidationInput → Except RunError (List TypedValues)
  | batch messages => .ok messages
  | single fields =>
    match messageType with
    | some messageType => .ok [⟨messageType, fields⟩]
    | none => .error .messageTypeRequired

/-! ## Commands -/

/-- How a run ends. -/
structure RunResult where
  status : Nat
  /-- What is shown. -/
  output : List Block
  /-- The lines of the error stream. -/
  complaints : List String
  /-- The files after the run. -/
  tree : FileTree

/-- The rule book that the checker comes with: the name of its directory, and its files, which are not among those
that a run looks at. -/
structure Installation where
  directory : String
  files : FileTree

/-- What a command works on. -/
structure Workplace where
  installation : Installation
  tree : FileTree
  settings : Settings
  /-- The directory of the rule book. -/
  directory : String
  /-- Results are shown as JSON. -/
  json : Bool

namespace Workplace

/-- The end of a command that has changed no files. -/
def finish (w : Workplace) (isFine : Bool) (value : Json) (blocks : List Block) : RunResult where
  status := if isFine then 0 else 1
  output := if w.json then [.json value] else blocks
  complaints := []
  tree := w.tree

/-- Reads the rule book. -/
def loadStandards (w : Workplace) : Except RunError (Shelf × RuleBookSummary) :=
  let tree := if w.directory = w.installation.directory then w.installation.files else w.tree
  (Shelf.load tree w.directory).mapError (.standards w.directory)

/-- Runs a computation of a validator of the rule book. -/
def ask {α : Type} (shelf : Shelf) (onError : ValidatorError → RunError)
    (question : Validator → Compiling ValidatorError α) : Except RunError α :=
  ((question ⟨shelf.current⟩).run shelf.formats).1.mapError onError

/-- Reads a file as text. -/
def readText (w : Workplace) (path : String) : Except RunError String := (w.tree.readText path).mapError (.read path)

/-- Reads a value from a file with JSON. -/
def readJson {α : Type} (w : Workplace) (path : String) (ofJson? : Json → Option α) : Except RunError α := do
  match (Json.read? (← w.readText path)).bind ofJson? with
  | some a => .ok a
  | none => .error (.content path)

/-- Verifies the rule book. -/
def verifyStandards (w : Workplace) : Except RunError RunResult := do
  let (shelf, summary) ← w.loadStandards
  return w.finish true (shelf.current.report summary) (shelf.current.display summary)

/-- Shows the fields of a message type. -/
def showSchema (w : Workplace) (messageType : String) : Except RunError RunResult := do
  let (shelf, _) ← w.loadStandards
  let schema ← ask shelf .message fun v => v.schema messageType
  return w.finish true schema.toJson schema.display

/-- Validates the messages in a file. -/
def validate (w : Workplace) (input : String) (messageType : Option String) : Except RunError RunResult := do
  let (shelf, _) ← w.loadStandards
  let messages ← (← w.readJson input ValidationInput.ofJson?).messages messageType
  let results ← messages.mapM fun m => ask shelf (.validate m.messageType) fun v => v.validate m.messageType m.fields
  return w.finish (results.all (·.isValid)) (.list MessageResult.toJson results) (results.flatMap (·.display))

/-- What is shown of a message that has been built, or rejected. -/
def displayConstruction (output : Option String) : Construction → List Block
  | .constructed message =>
    match output with
    | none => [.line message.text]
    | some _ =>
      [.line ("MT" ++ message.messageType ++ ": " ++ toString message.fieldCount ++ " of " ++
        toString message.totalFields ++ " fields written")]
  | .rejected result => result.display

/-- Builds a message from the values in a file, and writes it to another file when asked. -/
def construct (w : Workplace) (input messageType : String) (output : Option String) : Except RunError RunResult := do
  let (shelf, _) ← w.loadStandards
  let fields ← w.readJson input FieldValues.ofJson?
  let built ← ask shelf .message fun v => v.construct messageType fields
  let blocks := displayConstruction output built
  match built, output with
  | .constructed message, some path =>
    let tree ← (w.tree.write path (Text.toBytes message.text)).mapError (.write path)
    return { w with tree }.finish true built.toJson blocks
  | .constructed _, none => return w.finish true built.toJson blocks
  | .rejected _, _ => return w.finish false built.toJson blocks

/-- Reads the text block in a file and validates its fields. -/
def parse (w : Workplace) (input messageType : String) : Except RunError RunResult := do
  let (shelf, _) ← w.loadStandards
  let text ← w.readText input
  let parsed ← ask shelf (.parse input) fun v => v.parse messageType text
  return w.finish parsed.validation.isValid parsed.toJson parsed.display

/-- The table by which disagreements are judged. -/
def ruleTable (w : Workplace) : Except RunError RuleTable :=
  if w.settings.usesStandardsTable then w.loadStandards.map fun (shelf, _) => w.settings.ruleTable shelf.current
  else .ok .ucp600

/-- Compares the documents of the sets in files. Gaps fail the run whatever their severity would be. -/
def compare (w : Workplace) (inputs : List String) (failOn : Severity) (stripPunctuation : Bool) :
    Except RunError RunResult := do
  let settings := w.settings.comparison
  let comparison := { settings with stripPunctuation := settings.stripPunctuation || stripPunctuation }
  let table ← w.ruleTable
  let sets ← inputs.mapM fun path => w.readJson path DocumentSet.ofJson?
  let reports := sets.map (·.report comparison table)
  let isFine := reports.all fun r => r.countAtLeast failOn == 0 && r.gaps.isEmpty
  let result := w.finish isFine (.list Report.toJson reports) (reports.flatMap (·.display))
  return { result with complaints := if w.json then [] else reports.flatMap (·.gapLines) }

/-- Runs a command. -/
def run (w : Workplace) : Command → Except RunError RunResult
  | .verifyStandards => w.verifyStandards
  | .schema messageType => w.showSchema messageType
  | .validate input messageType => w.validate input messageType
  | .construct input messageType output => w.construct input messageType output
  | .parse input messageType => w.parse input messageType
  | .compare inputs failOn stripPunctuation => w.compare inputs failOn stripPunctuation

end Workplace

/-! ## Runs -/

/-- The end of a run that fails. -/
def RunResult.failed (tree : FileTree) (e : RunError) : RunResult := ⟨2, [], [e.toText], tree⟩

/-- Opens the file for log events, which is made when it is not there. -/
def openLog (tree : FileTree) (logging : Logging) : Except RunError FileTree :=
  match logging.file with
  | none => .ok tree
  | some path => if tree.isFile path then .ok tree else (tree.write path []).mapError .logFile

/-- Reads the settings: from the file that is given, else from the default one when it is there. -/
def readSettings (tree : FileTree) (given : Option String) : Except RunError Settings :=
  match given.orElse fun _ => if tree.isFile Settings.defaultFile then some Settings.defaultFile else none with
  | none => .ok {}
  | some path => do
    match Settings.read? (← (tree.readText path).mapError (.readSettings path)) with
    | some settings => .ok settings
    | none => .error (.settings path)

/-- Runs the checker on a tree of files. -/
def Invocation.run (invocation : Invocation) (installation : Installation) (tree : FileTree) : RunResult :=
  match openLog tree invocation.logging with
  | .error e => .failed tree e
  | .ok tree =>
    let attempt := do
      let settings ← readSettings tree invocation.settingsFile
      let directory := settings.directory invocation.standardsDirectory installation.directory
      Workplace.run ⟨installation, tree, settings, directory, invocation.json⟩ invocation.command
    match attempt with
    | .ok result => result
    | .error e => .failed tree e

/-- How the checker is used. -/
def usage : List String := [
  "Usage: lc-checker [OPTIONS] <COMMAND>",
  "",
  "Commands:",
  "  standards verify                   Verify manifest hashes and load every schema",
  "  schema <TYPE>                      Show the field definitions of a message type",
  "  validate <INPUT> [-t <TYPE>]       Validate field maps against their message schema",
  "  construct <INPUT> -t <TYPE> [-o <PATH>]",
  "                                     Build the text block of a message from a field map",
  "  parse <MESSAGE> -t <TYPE>          Read a message text block and validate its fields",
  "  compare <DOCUMENT_SET>... [--fail-on <SEVERITY>] [--strip-punctuation]",
  "                                     Compare the documents of one or more presentations",
  "",
  "Options: --json, --config <PATH>, --standards-dir <DIR>, --log-level <LEVEL>, --log-format <FORMAT>,",
  "  --log-file <PATH>, --color <WHEN>, -v, -q, -h, -V"]

/-- What is said of refused arguments. -/
def UsageError.lines (e : UsageError) : List String :=
  match e.toText? with
  | some text => ["error: " ++ text, "", "For more information, try '--help'."]
  | none => usage

/-- Runs the checker on its arguments. -/
def runArguments (arguments : List String) (installation : Installation) (tree : FileTree) : RunResult :=
  match Request.read arguments with
  | .ok (.run invocation) => invocation.run installation tree
  | .ok .version => ⟨0, [.line "lc-checker 0.1.0"], [], tree⟩
  | .ok .help => ⟨0, usage.map .line, [], tree⟩
  | .error e => ⟨2, [], e.lines, tree⟩

end DocumentaryCredit

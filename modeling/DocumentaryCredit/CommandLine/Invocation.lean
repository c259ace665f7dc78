/-
The arguments of the checker. The options that every command has may stand before the name of a command or after
it, and what stands further behind goes first; the options of one command stand after its name. An option is
written in full or by its letter, and its value follows it, as an argument of its own or behind a `=`. Each
option is given once, but for those that are counted.
-/
import DocumentaryCredit.CommandLine.Logging
import DocumentaryCredit.Presentation.Discrepancy

namespace DocumentaryCredit

/-- What the checker is told to do. -/
inductive Command where
  /-- Verify the rule book and tell what is in it. -/
  | verifyStandards
  /-- Show the fields of a message type. -/
  | schema (messageType : String)
  /-- Validate the values in a file. -/
  | validate (input : String) (messageType : Option String)
  /-- Build a message from the values in a file. -/
  | construct (input messageType : String) (output : Option String)
  /-- Read the text block in a file and validate its fields. -/
  | parse (input messageType : String)
  /-- Compare the documents of the sets in files. -/
  | compare (inputs : List String) (failOn : Severity) (stripPunctuation : Bool)
deriving DecidableEq

/-- A command with the options that every command has. -/
structure Invocation where
  logging : Logging
  /-- The file with the settings. -/
  settingsFile : Option String
  /-- The directory of the rule book. -/
  standardsDirectory : Option String
  /-- Results are written as JSON and not as tables. -/
  json : Bool
  command : Command
deriving DecidableEq

/-- What the arguments ask for. -/
inductive Request where
  | run (invocation : Invocation)
  | version
  | help
deriving DecidableEq

/-- Why arguments are refused. Options and words are named as the usage text names them. -/
inductive UsageError where
  | unexpected (argument : String)
  | unknownCommand (name : String)
  | missingCommand
  /-- The name of a command is not followed by that of one of its parts. -/
  | incompleteCommand
  | missingArguments (names : List String)
  | missingValue (name : String)
  | unexpectedValue (name value : String)
  | invalidValue (name value : String)
  | repeated (name : String)
  | conflict (name other : String)
deriving DecidableEq

/-- The message of the error, where the usage text is not all that is said. -/
def UsageError.toText? : UsageError → Option String
  | unexpected argument => some ("unexpected argument '" ++ argument ++ "' found")
  | unknownCommand name => some ("unrecognized subcommand '" ++ name ++ "'")
  | missingCommand => some "'lc-checker' requires a subcommand but one was not provided"
  | incompleteCommand => none
  | missingArguments names =>
    some ("\n  ".intercalate ("the following required arguments were not provided:" :: names))
  | missingValue name => some ("a value is required for '" ++ name ++ "' but none was supplied")
  | unexpectedValue name value =>
    some ("unexpected value '" ++ value ++ "' for '" ++ name ++ "' found; no more were expected")
  | invalidValue name value => some ("invalid value '" ++ value ++ "' for '" ++ name ++ "'")
  | repeated name => some ("the argument '" ++ name ++ "' cannot be used multiple times")
  | conflict name other => some ("the argument '" ++ name ++ "' cannot be used with '" ++ other ++ "'")

/-! ## Options -/

/-- The form of an option. -/
structure OptionForm where
  name : String
  letter : Option Char := none
  /-- The name of the option's value in the usage text; none for a flag. -/
  valueName : Option String := none
  /-- The value is a path, which is not empty. -/
  isPath : Bool := false
  /-- The option may be given several times. -/
  isCounted : Bool := false

namespace OptionForm

/-- Whether the option has a value. -/
def hasValue (form : OptionForm) : Bool := form.valueName.isSome

/-- The option as the usage text names it. -/
def toText (form : OptionForm) : String :=
  "--" ++ form.name ++ match form.valueName with
    | some value => " <" ++ value ++ ">"
    | none => if form.isCounted then "..." else ""

/-- The option that asks for more log events. -/
def verbose : OptionForm := { name := "verbose", letter := some 'v', isCounted := true }

/-- The option that asks for fewer log events. -/
def quiet : OptionForm := { name := "quiet", letter := some 'q', isCounted := true }

/-- The option for colours. -/
def color : OptionForm := { name := "color", valueName := some "WHEN" }

/-- The option for the level of log events. -/
def logLevel : OptionForm := { name := "log-level", valueName := some "LOG_LEVEL" }

/-- The option for the layout of log events. -/
def logFormat : OptionForm := { name := "log-format", valueName := some "LOG_FORMAT" }

/-- The option for the file of log events. -/
def logFile : OptionForm := { name := "log-file", valueName := some "PATH", isPath := true }

/-- The option for the file with the settings. -/
def config : OptionForm := { name := "config", valueName := some "PATH", isPath := true }

/-- The option for the directory of the rule book. -/
def standardsDirectory : OptionForm := { name := "standards-dir", valueName := some "DIR", isPath := true }

/-- The option for results as JSON. -/
def json : OptionForm := { name := "json" }

/-- The option that asks for the usage text. -/
def help : OptionForm := { name := "help", letter := some 'h' }

/-- The option that asks for the version. -/
def version : OptionForm := { name := "version", letter := some 'V' }

/-- The option for the message type. -/
def messageType : OptionForm := { name := "message-type", letter := some 't', valueName := some "TYPE" }

/-- The option for the file that a message is written to. -/
def output : OptionForm := { name := "output", letter := some 'o', valueName := some "PATH", isPath := true }

/-- The option for the least severity that fails a run. -/
def failOn : OptionForm := { name := "fail-on", valueName := some "FAIL_ON" }

/-- The option that leaves punctuation out of comparisons. -/
def stripPunctuation : OptionForm := { name := "strip-punctuation" }

/-- The options that every command has. -/
def common : List OptionForm :=
  [verbose, quiet, color, logLevel, logFormat, logFile, config, standardsDirectory, json, help]

end OptionForm

/-- The options and words given before or after the name of a command. -/
structure Given where
  /-- The names of the options with their values. -/
  options : List (String × String) := []
  words : List String := []
  /-- An option whose value follows. -/
  pending : Option OptionForm := none

namespace Given

/-- The number of times that an option is given. -/
def count (g : Given) (form : OptionForm) : Nat := (g.options.filter (·.1 == form.name)).length

/-- Whether an option is given. -/
def has (g : Given) (form : OptionForm) : Bool := g.count form != 0

/-- The value of an option. -/
def value? (g : Given) (form : OptionForm) : Option String := (g.options.find? (·.1 == form.name)).map (·.2)

/-- Adds an option with its value, which a flag does not have. -/
def add (g : Given) (form : OptionForm) (value : String) : Except UsageError Given :=
  if g.has form && !form.isCounted then .error (.repeated form.toText)
  else if form.isPath && value.isEmpty then .error (.missingValue form.toText)
  else .ok { g with options := g.options ++ [(form.name, value)], pending := none }

/-- Adds an option that is written with or without its value. -/
def addWritten (g : Given) (form : OptionForm) (value : Option String) : Except UsageError Given :=
  match value with
  | some value => if form.hasValue then g.add form value else .error (.unexpectedValue form.toText value)
  | none => if form.hasValue then .ok { g with pending := some form } else g.add form ""

/-- Adds the options of a row of letters; the value of an option is what follows its letter. -/
def addLetters (forms : List OptionForm) (g : Given) : List Char → Except UsageError Given
  | [] => .ok g
  | c :: rest =>
    match forms.find? (·.letter == some c) with
    | none => .error (.unexpected ("-" ++ c.toString))
    | some form =>
      if form.hasValue then
        let value := match rest with
          | '=' :: value => value
          | value => value
        g.addWritten form (if rest.isEmpty then none else some (String.ofList value))
      else match g.addWritten form none with
        | .error e => .error e
        | .ok g => addLetters forms g rest

end Given

/-- Whether an argument is written as an option is. -/
def isOptionForm (argument : String) : Bool := argument.toList.head? = some '-' && argument.length > 1

/-- Adds the option or options of an argument. -/
def Given.addArgument (forms : List OptionForm) (g : Given) (argument : String) : Except UsageError Given :=
  match Text.stripStart? "--" argument with
  | none => g.addLetters forms (argument.toList.drop 1)
  | some long =>
    let name := long.toList.takeWhile (· != '=')
    let value := (long.toList.drop name.length).tail?.map String.ofList
    match forms.find? (·.name == String.ofList name) with
    | none => .error (.unexpected ("--" ++ String.ofList name))
    | some form => g.addWritten form value

/-- Takes arguments as options and words. `stops` says that the first word ends them; the answer has the
arguments from there on. -/
def takeArguments (forms : List OptionForm) (stops : Bool) (g : Given) :
    List String → Except UsageError (Given × List String)
  | [] =>
    match g.pending with
    | some form => .error (.missingValue form.toText)
    | none => .ok (g, [])
  | argument :: rest =>
    match g.pending with
    | some form =>
      if isOptionForm argument then .error (.missingValue form.toText)
      else match g.add form argument with
        | .error e => .error e
        | .ok g => takeArguments forms stops g rest
    | none =>
      if argument = "--" then .ok ({ g with words := g.words ++ rest }, [])
      else if isOptionForm argument then
        match g.addArgument forms argument with
        | .error e => .error e
        | .ok g => takeArguments forms stops g rest
      else if stops then .ok (g, argument :: rest)
      else takeArguments forms stops { g with words := g.words ++ [argument] } rest

/-- The options before a name, the name, and the arguments after it. -/
def takeName (forms : List OptionForm) (arguments : List String) :
    Except UsageError (Given × Option (String × List String)) := do
  let (g, rest) ← takeArguments forms true {} arguments
  match g.words, rest with
  | word :: _, _ => .error (.unexpected word)
  | [], name :: rest => .ok (g, some (name, rest))
  | [], [] => .ok (g, none)

/-- The options and words of a command. -/
def takeAll (forms : List OptionForm) (arguments : List String) : Except UsageError Given :=
  (takeArguments forms false {} arguments).map (·.1)

/-! ## Commands -/

namespace Given

/-- The only word, which is missing together with those options of `needed` that are not given. -/
def oneWord (g : Given) (name : String) (needed : List OptionForm) : Except UsageError String :=
  let missing := (needed.filter (!g.has ·)).map OptionForm.toText
  match g.words with
  | _ :: word :: _ => .error (.unexpected word)
  | [word] => if missing.isEmpty then .ok word else .error (.missingArguments missing)
  | [] => .error (.missingArguments (missing ++ [name]))

/-- The only word, which is a path. -/
def onePath (g : Given) (name : String) (needed : List OptionForm) : Except UsageError String := do
  let path ← g.oneWord name needed
  if path.isEmpty then .error (.missingValue name) else .ok path

/-- The value of an option that is one of several names. -/
def choice? {α : Type} (g : Given) (form : OptionForm) (read? : String → Option α) : Except UsageError (Option α) :=
  match g.value? form with
  | none => .ok none
  | some value =>
    match read? value with
    | some a => .ok (some a)
    | none => .error (.invalidValue form.toText value)

end Given

namespace Command

/-- Reads the options and words of a command and builds it, unless help is asked for. -/
def readWith (forms : List OptionForm) (build : Given → Except UsageError Command) (arguments : List String) :
    Except UsageError (List Given × Option Command) := do
  let g ← takeAll (forms ++ OptionForm.common) arguments
  if g.has .help then return ([g], none)
  else return ([g], some (← build g))

/-- The command that shows the fields of a message type. -/
def ofSchema (g : Given) : Except UsageError Command := return schema (← g.oneWord "<TYPE>" [])

/-- The command that validates the values in a file. -/
def ofValidate (g : Given) : Except UsageError Command :=
  return validate (← g.onePath "<INPUT>" []) (g.value? .messageType)

/-- The command that builds a message. -/
def ofConstruct (g : Given) : Except UsageError Command :=
  return construct (← g.onePath "<INPUT>" [.messageType]) ((g.value? .messageType).getD "") (g.value? .output)

/-- The command that reads a text block. -/
def ofParse (g : Given) : Except UsageError Command :=
  return parse (← g.onePath "<MESSAGE>" [.messageType]) ((g.value? .messageType).getD "")

/-- The command that compares documents. -/
def ofCompare (g : Given) : Except UsageError Command := do
  let failOn ← g.choice? .failOn Named.read?
  if g.words.isEmpty then .error (.missingArguments ["<DOCUMENT_SET>..."])
  else if g.words.contains "" then .error (.missingValue "<DOCUMENT_SET>...")
  else return compare g.words (failOn.getD .low) (g.has .stripPunctuation)

/-- Reads a command on the rule book. -/
def readStandards (arguments : List String) : Except UsageError (List Given × Option Command) := do
  let (outer, rest) ← takeName OptionForm.common arguments
  if outer.has .help then return ([outer], none)
  else match rest with
    | none => .error .incompleteCommand
    | some ("verify", rest) =>
      let inner ← takeAll OptionForm.common rest
      match inner.words with
      | word :: _ => .error (.unexpected word)
      | [] => return ([outer, inner], if inner.has .help then none else some verifyStandards)
    | some (name, _) => .error (.unknownCommand name)

/-- Reads a command by its name; the answer has no command when help is asked for. -/
def read (name : String) (arguments : List String) : Except UsageError (List Given × Option Command) :=
  match name with
  | "standards" => readStandards arguments
  | "schema" => readWith [] ofSchema arguments
  | "validate" => readWith [.messageType] ofValidate arguments
  | "construct" => readWith [.messageType, .output] ofConstruct arguments
  | "parse" => readWith [.messageType] ofParse arguments
  | "compare" => readWith [.failOn, .stripPunctuation] ofCompare arguments
  | name => .error (.unknownCommand name)

end Command

/-! ## Invocations -/

/-- Of the options given at several places, the ones that count: those furthest behind. -/
def lastGiven (form : OptionForm) (levels : List Given) : Given := (levels.reverse.find? (·.has form)).getD {}

/-- Reads the level of log events. -/
def readLogLevel (levels : List Given) : Except UsageError LogLevel := do
  if levels.any fun g => g.has .verbose && g.has .quiet then
    .error (.conflict OptionForm.verbose.toText OptionForm.quiet.toText)
  else
    let level ← (lastGiven .logLevel levels).choice? .logLevel fun s => (Named.read? s).filter (· != .off)
    return level.getD (LogLevel.ofVerbosity
      ((lastGiven .verbose levels).count .verbose) ((lastGiven .quiet levels).count .quiet))

/-- When output may have colours, of which it has none. -/
def colorChoices : List String := ["auto", "always", "never"]

namespace Invocation

/-- The command with the options at all places. -/
def ofGiven (levels : List Given) (command : Command) : Except UsageError Invocation := do
  let _ ← (lastGiven .color levels).choice? .color fun s => colorChoices.find? (· == s)
  let level ← readLogLevel levels
  let format ← (lastGiven .logFormat levels).choice? .logFormat Named.read?
  return {
    logging := ⟨level, format.getD .pretty, (lastGiven .logFile levels).value? .logFile⟩
    settingsFile := (lastGiven .config levels).value? .config
    standardsDirectory := (lastGiven .standardsDirectory levels).value? .standardsDirectory
    json := levels.any (·.has .json)
    command }

end Invocation

/-- Reads the arguments of the checker. -/
def Request.read (arguments : List String) : Except UsageError Request := do
  let (outer, rest) ← takeName (.version :: OptionForm.common) arguments
  if outer.has .help then return .help
  else if outer.has .version then return .version
  else match rest with
    | none => .error .missingCommand
    | some (name, rest) =>
      let (inner, command) ← Command.read name rest
      match command with
      | none => return .help
      | some command => return .run (← Invocation.ofGiven (outer :: inner) command)

end DocumentaryCredit

/-
Why a rule book is refused.
-/
import DocumentaryCredit.Csv
import DocumentaryCredit.Format.Specification
import DocumentaryCredit.Standards.Manifest

namespace DocumentaryCredit

/-- A name or a pattern in a table that is not known. -/
inductive NameFault where
  | ruleKind (name : String)
  | pattern (text : String)
  | severity (name : String)
  | category (name : String)
deriving DecidableEq

/-- The message of the fault. -/
def NameFault.toText : NameFault → String
  | ruleKind name => "unknown rule kind: " ++ name
  | pattern text => "invalid pattern '" ++ text ++ "'"
  | severity name => "unknown severity: " ++ name
  | category name => "unknown field category: " ++ name

/-- What is wrong with the rows of a table; rows are counted from one. -/
inductive TableFault where
  | malformed (cause : Csv.Error)
  | missing (row : Nat) (column : String)
  | notNumber (row : Nat) (column value : String)
  | mandatoryFlag (row : Nat)
  | messageTwice (messageType : String)
  | lengthWithoutMax (row : Nat)
  | lengthBounds (row min max : Nat)
  | categoryTwice (row : Nat) (category : String)
deriving DecidableEq

/-- The message of the fault. -/
def TableFault.toText : TableFault → String
  | malformed cause => cause.toText
  | missing row column => "row " ++ toString row ++ ": missing " ++ column
  | notNumber row column value => "row " ++ toString row ++ ": " ++ column ++ " '" ++ value ++ "' is not a number"
  | mandatoryFlag row => "row " ++ toString row ++ ": Mandatory must be Y or N"
  | messageTwice messageType => "message type MT" ++ messageType ++ " listed twice"
  | lengthWithoutMax row => "row " ++ toString row ++ ": length rule needs Max"
  | lengthBounds row min max =>
    "row " ++ toString row ++ ": length rule has Min " ++ toString min ++ " above Max " ++ toString max
  | categoryTwice row category => "row " ++ toString row ++ ": category " ++ category ++ " listed twice"

/-- Why a rule book, or something in it, is refused. -/
inductive StandardsError where
  | file (path : String) (cause : FileError)
  /-- The manifest is no TOML document, or none of the right shape. -/
  | manifestText (path : String)
  | schema (name : String)
  | schemaVersion (version : Nat)
  | missingRole (role : String)
  | duplicateRole (role : String)
  | entry (fault : EntryFault)
  | missingFile (path : String)
  | unexpectedFile (path : String)
  | hashMismatch (path expected actual : String)
  | table (path : String) (fault : TableFault)
  | name (path : String) (fault : NameFault)
  | format (messageType tag : String) (cause : FormatError)
  | duplicateTag (messageType tag : String)
  | duplicateSequence (messageType : String) (sequence : Nat) (first second : String)
  /-- A field belongs to a message type that is not listed. -/
  | undefinedMessageType (path messageType : String)
  /-- A rule names a field that there is not. -/
  | undefinedField (path messageType tag : String)
  | unknownMessageType (messageType : String)
deriving DecidableEq

namespace StandardsError

/-- The message of the error. -/
def toText : StandardsError → String
  | file path cause => "failed to read file " ++ path ++ ": " ++ cause.toText
  | manifestText path => "failed to parse TOML manifest " ++ path
  | schema found => "invalid manifest: unsupported schema: " ++ found
  | schemaVersion version => "invalid manifest: unsupported schema_version: " ++ toString version
  | missingRole role => "missing required role in manifest: " ++ role
  | duplicateRole role => "duplicate role in manifest: " ++ role
  | entry fault => fault.toText
  | missingFile path => "missing file listed in manifest: " ++ path
  | unexpectedFile path => "unexpected file present under standards/: " ++ path
  | hashMismatch path expected actual =>
    "sha256 mismatch for " ++ path ++ " (expected " ++ expected ++ ", got " ++ actual ++ ")"
  | table path fault => "failed to parse CSV " ++ path ++ ": " ++ fault.toText
  | name path fault => path ++ ": " ++ fault.toText
  | format messageType tag cause => "MT" ++ messageType ++ " field " ++ tag ++ ": " ++ cause.toText
  | duplicateTag messageType tag => "MT" ++ messageType ++ " defines tag " ++ tag ++ " more than once"
  | duplicateSequence messageType sequence first second =>
    "MT" ++ messageType ++ " uses sequence " ++ toString sequence ++ " for both " ++ first ++ " and " ++ second
  | undefinedMessageType path messageType => path ++ ": unknown message type MT" ++ messageType
  | undefinedField path messageType tag => path ++ ": MT" ++ messageType ++ " has no field " ++ tag
  | unknownMessageType messageType => "unknown message type: MT" ++ messageType

/-- The messages of the error and of what caused it, which the error's own message repeats. -/
def causes (e : StandardsError) : List String :=
  e.toText :: match e with
    | file _ cause => [cause.toText]
    | name _ fault => [fault.toText]
    | format _ _ cause => [cause.toText]
    | _ => []

end StandardsError

end DocumentaryCredit

/-
What the validation of a message finds: for each field nothing, or the first thing that is wrong with it.
-/
import DocumentaryCredit.Calendar
import DocumentaryCredit.Format.Mismatch
import DocumentaryCredit.Message.Schema

namespace DocumentaryCredit

/-- The kinds of failures of a field. -/
inductive FailureKind where
  | missingMandatoryField
  | formatMismatch
  | invalidEnumValue
  | ruleViolation
  | unknownField
deriving DecidableEq

instance : Named FailureKind where
  all := [.missingMandatoryField, .formatMismatch, .invalidEnumValue, .ruleViolation, .unknownField]
  name
    | .missingMandatoryField => "missing_mandatory_field"
    | .formatMismatch => "format_mismatch"
    | .invalidEnumValue => "invalid_enum_value"
    | .ruleViolation => "rule_violation"
    | .unknownField => "unknown_field"

/-- The kind as it is shown to the user. -/
def FailureKind.toText : FailureKind → String
  | missingMandatoryField => "MissingMandatoryField"
  | formatMismatch => "FormatMismatch"
  | invalidEnumValue => "InvalidEnumValue"
  | ruleViolation => "RuleViolation"
  | unknownField => "UnknownField"

/-- What is wrong with a field. -/
inductive FieldFailure where
  /-- A mandatory field, of this name and format, has no value. -/
  | missing (name spec : String)
  /-- The value does not have its format. -/
  | mismatch (spec : String) (cause : Mismatch) (value : String)
  /-- The canonical segment is none of the allowed values. -/
  | notAllowed (segment : String) (allowed : TextSet)
  | length (count min max : Nat)
  | pattern (p : Pattern) (value : String)
  /-- The text of a date component names no day. -/
  | date (text : String)
  | requires (rule : CrossFieldRule)
  | excluded (rule : CrossFieldRule)
  | dateBefore (mine theirs : Date) (rule : CrossFieldRule)
  /-- The message type has no such field. -/
  | unknown (messageType : String) (shown : Option String)
deriving DecidableEq

namespace FieldFailure

/-- The kind of a failure. -/
def kind : FieldFailure → FailureKind
  | missing .. => .missingMandatoryField
  | mismatch .. => .formatMismatch
  | notAllowed .. => .invalidEnumValue
  | unknown .. => .unknownField
  | length .. | pattern .. | date _ | requires _ | excluded _ | dateBefore .. => .ruleViolation

/-- The message of a failure of the field with the given tag. -/
def message (tag : String) : FieldFailure → String
  | missing name _ => "field " ++ tag ++ " (" ++ name ++ ") is mandatory"
  | mismatch spec cause _ => "field " ++ tag ++ " does not match " ++ spec ++ ": " ++ cause.toText
  | notAllowed segment _ => "field " ++ tag ++ " value '" ++ segment ++ "' is not an allowed value"
  | length count min max =>
    "field " ++ tag ++ " has " ++ toString count ++ " characters, allowed " ++ toString min ++ " to " ++ toString max
  | pattern p _ => "field " ++ tag ++ " does not match pattern " ++ p.text
  | date text => "field " ++ tag ++ " contains '" ++ text ++ "', which is not a valid date"
  | requires rule => "field " ++ tag ++ " requires field " ++ rule.otherTag
  | excluded rule => "field " ++ tag ++ " cannot be used together with field " ++ rule.otherTag
  | dateBefore mine theirs rule =>
    "date " ++ mine.toText ++ " in field " ++ tag ++ " is before date " ++ theirs.toText ++ " in field " ++ rule.otherTag
  | unknown messageType _ => "field " ++ tag ++ " is not defined for MT" ++ messageType

/-- The format, values or rule that was not kept. -/
def expected : FieldFailure → Option String
  | missing _ spec => some spec
  | mismatch _ cause _ => some cause.expected
  | notAllowed _ allowed => some (" | ".intercalate allowed.elements)
  | length _ min max => some (FieldRule.length min max).toText
  | pattern p _ => some (FieldRule.pattern p).toText
  | date _ => some "YYMMDD"
  | requires rule | excluded rule | dateBefore _ _ rule => some rule.toText
  | unknown .. => none

/-- The value or the part of it that is at fault. -/
def actual : FieldFailure → Option String
  | mismatch _ _ value => some value
  | notAllowed segment _ => some segment
  | length count _ _ => some (toString count)
  | pattern _ value => some value
  | date text => some text
  | dateBefore mine _ _ => some mine.toText
  | unknown _ shown => shown
  | missing .. | requires _ | excluded _ => none

end FieldFailure

/-- The result of the validation of one field. -/
structure FieldResult where
  tag : String
  failure : Option FieldFailure
deriving DecidableEq

namespace FieldResult

/-- Nothing is wrong with the field. -/
def isValid (r : FieldResult) : Bool := r.failure.isNone

end FieldResult

/-- The result of the validation of a message: the results of the schema's fields in their order, then those of
the tags that the schema does not have. -/
structure MessageResult where
  messageType : String
  results : List FieldResult
deriving DecidableEq

namespace MessageResult

/-- Nothing is wrong with any field. -/
def isValid (r : MessageResult) : Bool := r.results.all (·.isValid)

/-- The fields that have something wrong with them. -/
def errors (r : MessageResult) : List FieldResult := r.results.filter (!·.isValid)

/-- The mandatory fields that have no value. -/
def missingMandatory (r : MessageResult) : TextSet :=
  TextSet.ofList ((r.results.filter fun result =>
    result.failure.map (·.kind) == some .missingMandatoryField).map (·.tag))

end MessageResult

end DocumentaryCredit

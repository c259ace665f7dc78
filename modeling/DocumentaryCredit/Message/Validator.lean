/-
Validators: the messages of a rule book, validated, built and read. A validator keeps the rule book it was made
with; the formats that it compiles are shared with everyone who uses the same cache.
-/
import DocumentaryCredit.Message.TextBlock
import DocumentaryCredit.Standards.RuleBook

namespace DocumentaryCredit

/-- Why a message cannot be validated, built or read. -/
inductive ValidatorError where
  | unknownMessageType (messageType : String)
  | fieldFormat (cause : FieldFormatError)
  | textBlock (cause : TextBlockError)
deriving DecidableEq

namespace ValidatorError

/-- The message of the error. -/
def toText : ValidatorError → String
  | unknownMessageType messageType => "unknown message type: MT" ++ messageType
  | fieldFormat cause => cause.toText
  | textBlock cause => cause.toText

/-- The messages of the error and of what caused it. -/
def causes (e : ValidatorError) : List String :=
  e.toText :: match e with
    | fieldFormat cause => [cause.cause.toText]
    | _ => []

end ValidatorError

/-- A validator of the messages of a rule book. -/
structure Validator where
  book : RuleBook

/-- A text block with the result of the validation of its fields. -/
structure ParsedMessage where
  fields : FieldValues
  validation : MessageResult

namespace Validator

/-- The error of a step that compiles formats. -/
def compilingFields {α : Type} (step : Compiling FieldFormatError α) : Compiling ValidatorError α := fun cache =>
  match step cache with
  | (.ok a, cache) => (.ok a, cache)
  | (.error e, cache) => (.error (.fieldFormat e), cache)

/-- The schema of a message type. -/
def schema (v : Validator) (messageType : String) : Compiling ValidatorError Schema :=
  match v.book.schema messageType with
  | .ok schema => pure schema
  | .error _ => throw (.unknownMessageType (normalizeMessageType messageType))

/-- Validates a field outside of a message. -/
def validateField (v : Validator) (messageType tag : String) (value : Option String) :
    Compiling ValidatorError FieldResult := do
  let schema ← v.schema messageType
  match schema.field? (Text.trim tag) with
  | none => return ⟨tag, some (.unknown schema.messageType none)⟩
  | some d =>
    let format ← compilingFields (compiling (FieldFormatError.mk d.tag) d.formatSpec)
    return d.validate format value

/-- Validates a message. -/
def validate (v : Validator) (messageType : String) (values : FieldValues) : Compiling ValidatorError MessageResult := do
  let schema ← v.schema messageType
  compilingFields (schema.validate values)

/-- Builds a message. -/
def construct (v : Validator) (messageType : String) (values : FieldValues) : Compiling ValidatorError Construction := do
  let schema ← v.schema messageType
  compilingFields (schema.construct values)

/-- Reads a text block and validates its fields. -/
def parse (v : Validator) (messageType text : String) : Compiling ValidatorError ParsedMessage := do
  let schema ← v.schema messageType
  match TextBlock.read text with
  | .error e => throw (.textBlock e)
  | .ok fields => return ⟨fields, ← compilingFields (schema.validate fields)⟩

end Validator

end DocumentaryCredit

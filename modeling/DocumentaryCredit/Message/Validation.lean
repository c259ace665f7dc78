/-
The validation of a whole message. Every field of the schema is validated, then the rules between fields are
looked at for the fields that are present and valid by themselves, and last the tags that the schema does not
have are reported. What is wrong with one field does not change the result of another.
-/
import DocumentaryCredit.Format.Cache
import DocumentaryCredit.Message.Field

namespace DocumentaryCredit

/-- The values of a message by tag. -/
abbrev FieldValues := TextMap String

/-- The values as they are validated and written: tags trimmed and in capitals, one kind of line break, and no
blank values, which count as absent. -/
def normalizeValues (values : FieldValues) : FieldValues :=
  TextMap.ofList ((values.entries.filter fun entry => !Text.isBlank entry.2).map fun entry =>
    (Text.asciiUpper (Text.trim entry.1), Text.normalizeLineBreaks entry.2))

/-- Why a message cannot be validated: a field of its schema has a specification that is no format. -/
structure FieldFormatError where
  tag : String
  cause : FormatError
deriving DecidableEq

/-- The message of the error. -/
def FieldFormatError.toText (e : FieldFormatError) : String :=
  "field " ++ e.tag ++ " has an invalid format: " ++ e.cause.toText

/-- A field with its compiled format. -/
structure CompiledField where
  definition : FieldDefinition
  format : Format

namespace CompiledField

/-- The date that a value of the field carries. -/
def date? (f : CompiledField) (value : String) : Option Date :=
  match f.format.matchSpans value with
  | .error _ => none
  | .ok spans =>
    (Format.segment? value spans f.definition.dateComponent).bind fun text => Date.ofDigits? text.toList

end CompiledField

/-- Whether a tag has a value. -/
def FieldValues.isPresent (values : FieldValues) (tag : String) : Bool := (values.get? tag).any (!Text.isBlank ·)

/-- What a field with a value does against a rule that ties it to another one. -/
def CrossFieldRule.failure? (rule : CrossFieldRule) (fields : List CompiledField) (values : FieldValues)
    (f : CompiledField) (value : String) : Option FieldFailure :=
  match rule.relation with
  | .requires => if values.isPresent rule.otherTag then none else some (.requires rule)
  | .excludedBy => if values.isPresent rule.otherTag then some (.excluded rule) else none
  | .dateNotBefore => do
    let other ← fields.find? fun g => Text.equalIgnoringCase g.definition.tag rule.otherTag
    let mine ← f.date? value
    let theirs ← ((values.get? rule.otherTag).filter (!Text.isBlank ·)).bind other.date?
    if mine.before theirs then some (.dateBefore mine theirs rule) else none

/-- The result of a field: that of its own validation, or the first rule between fields that it breaks. -/
def CompiledField.validate (fields : List CompiledField) (values : FieldValues) (f : CompiledField) : FieldResult :=
  let value := values.get? f.definition.tag
  let own := f.definition.validate f.format value
  match value.filter (!Text.isBlank ·) with
  | none => own
  | some value =>
    if own.isValid then
      ⟨own.tag, f.definition.crossFieldRules.findSome? (·.failure? fields values f value)⟩
    else own

/-- The results for the tags that a schema does not have. -/
def Schema.unknownFields (schema : Schema) (values : FieldValues) : List FieldResult :=
  (values.keys.filter fun tag => (schema.field? tag).isNone).map fun tag =>
    ⟨tag, some (.unknown schema.messageType (some tag))⟩

/-- The fields of a schema with their formats. -/
def Schema.compileFields (schema : Schema) : Compiling FieldFormatError (List CompiledField) :=
  schema.fields.mapM fun d => return ⟨d, ← compiling (FieldFormatError.mk d.tag) d.formatSpec⟩

/-- The result of the validation of a message. -/
def Schema.validate (schema : Schema) (values : FieldValues) : Compiling FieldFormatError MessageResult := do
  let values := normalizeValues values
  let fields ← schema.compileFields
  return ⟨schema.messageType, fields.map (·.validate fields values) ++ schema.unknownFields values⟩

end DocumentaryCredit

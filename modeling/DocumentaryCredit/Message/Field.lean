/-
The validation of one field: whether it has a value, whether the value has its format, whether it is one of the
allowed ones, and whether it keeps the rules that look at this field alone. The first thing that is wrong is
reported.
-/
import DocumentaryCredit.Format.Match
import DocumentaryCredit.Message.Result

namespace DocumentaryCredit

/-- An absent value and a blank one count the same. -/
def isAbsent (value : Option String) : Bool := value.all Text.isBlank

/-- The text that allowed values are compared with: that of the first component where there are several, else
the whole value. -/
def canonicalSegment (format : Format) (spans : List (Option Span)) (value : String) : String :=
  if format.isComposite then (Format.segment? value spans 0).getD "" else value

/-- What a matched value does against a rule. -/
def FieldRule.failure? (rule : FieldRule) (spans : List (Option Span)) (value : String) : Option FieldFailure :=
  match rule with
  | .length min max =>
    let count := (value.toList.filter (· != '\n')).length
    if count < min || count > max then some (.length count min max) else none
  | .pattern p => if p.isIn value then none else some (.pattern p value)
  | .date component =>
    match Format.segment? value spans component with
    | none => none
    | some text => if (Date.ofDigits? text.toList).isNone then some (.date text) else none
  | .crossField _ => none

/-- What is wrong with the value of a field. -/
def FieldDefinition.failure? (d : FieldDefinition) (format : Format) (value : Option String) : Option FieldFailure :=
  match value.filter (!Text.isBlank ·) with
  | none => if d.isMandatory then some (.missing d.name d.formatSpec) else none
  | some raw =>
    let value := Text.normalizeLineBreaks raw
    match format.matchSpans value with
    | .error cause => some (.mismatch format.spec cause value)
    | .ok spans =>
      let segment := canonicalSegment format spans value
      match d.allowedValues.filter (!·.contains segment) with
      | some allowed => some (.notAllowed segment allowed)
      | none => d.rules.findSome? (·.failure? spans value)

/-- The result of the validation of a field. -/
def FieldDefinition.validate (d : FieldDefinition) (format : Format) (value : Option String) : FieldResult :=
  ⟨d.tag, d.failure? format value⟩

end DocumentaryCredit

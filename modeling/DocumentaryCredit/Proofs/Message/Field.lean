/-
What the validation of a field says of its value. With nothing wrong, a value that is there has the format of the field,
its date components name days, and every rule that looks at this field alone is kept; a field is reported as missing
when it is mandatory and has no value, and never otherwise.
-/
import DocumentaryCredit.Message.Validation

namespace DocumentaryCredit

@[simp] theorem FieldDefinition.failure_validate (d : FieldDefinition) (format : Format) (value : Option String) :
    (d.validate format value).failure = d.failure? format value := rfl

theorem FieldDefinition.isValid_validate_iff {d : FieldDefinition} {format : Format} {value : Option String} :
    (d.validate format value).isValid = true ↔ d.failure? format value = none :=
  Option.isNone_iff_eq_none

/-- A value that is there, and in which nothing is wrong, is matched and keeps the rules of its field. -/
theorem FieldDefinition.exists_matchSpans {d : FieldDefinition} {format : Format} {raw : String}
    (hpresent : Text.isBlank raw = false) (h : d.failure? format (some raw) = none) :
    ∃ spans, format.matchSpans (Text.normalizeLineBreaks raw) = .ok spans ∧
      ∀ rule ∈ d.rules, rule.failure? spans (Text.normalizeLineBreaks raw) = none := by
  unfold failure? at h
  simp only [Option.filter_some, hpresent, Bool.not_false, if_true] at h
  split at h
  · cases h
  next spans hspans =>
  split at h
  · cases h
  · exact ⟨spans, hspans, List.findSome?_eq_none_iff.1 h⟩

theorem FieldRule.exists_date_of_failure? {component : Nat} {spans : List (Option Span)} {value text : String}
    (h : (FieldRule.date component).failure? spans value = none)
    (hsegment : Format.segment? value spans component = some text) : ∃ date, Date.ofDigits? text.toList = some date := by
  simpa [failure?, hsegment, ← Option.ne_none_iff_exists'] using h

theorem FieldRule.kind_of_failure? {rule : FieldRule} {spans : List (Option Span)} {value : String}
    {failure : FieldFailure} (h : rule.failure? spans value = some failure) : failure.kind = .ruleViolation := by
  cases rule <;> simp only [failure?] at h
  all_goals
    repeat' split at h
    all_goals cases h
    all_goals rfl

/-- A field with a value is not reported as missing. -/
theorem FieldDefinition.kind_ne_missing {d : FieldDefinition} {format : Format} {raw : String} {failure : FieldFailure}
    (hpresent : Text.isBlank raw = false) (h : d.failure? format (some raw) = some failure) :
    failure.kind ≠ .missingMandatoryField := by
  simp only [failure?, Option.filter_some, hpresent, Bool.not_false, if_true] at h
  split at h
  · cases h
    nofun
  · split at h
    · cases h
      nofun
    · obtain ⟨rule, -, hrule⟩ := List.exists_of_findSome?_eq_some h
      rw [FieldRule.kind_of_failure? hrule]
      nofun

theorem FieldDefinition.kind_of_absent {d : FieldDefinition} {format : Format} :
    (d.failure? format none).map (·.kind) = some .missingMandatoryField ↔ d.isMandatory = true := by
  cases hmandatory : d.isMandatory <;> simp [failure?, hmandatory, FieldFailure.kind]

/-! ## Fields of a message -/

namespace CompiledField

variable {fields : List CompiledField} {values : FieldValues} {f : CompiledField} {value : String}

theorem validate_of_none (hget : values.get? f.definition.tag = none) :
    f.validate fields values = f.definition.validate f.format none := by
  simp only [validate, hget, Option.filter_none]

theorem validate_of_some (hget : values.get? f.definition.tag = some value) (hpresent : Text.isBlank value = false) :
    f.validate fields values =
      if (f.definition.validate f.format (some value)).isValid
      then ⟨f.definition.tag, f.definition.crossFieldRules.findSome? (·.failure? fields values f value)⟩
      else f.definition.validate f.format (some value) := by
  simp only [validate, hget, Option.filter_some, hpresent, Bool.not_false, if_true]
  rfl

theorem validate_tag : (f.validate fields values).tag = f.definition.tag := by
  simp only [validate]
  repeat' split
  all_goals rfl

end CompiledField

end DocumentaryCredit

/-
A validator of a loaded rule book never fails for a format. All specifications have been compiled once when the rule
book was loaded, and what compiles once compiles with any cache. Main statement: with whatever formats were compiled
before, the four operations of a validator fail only for a message type that the rule book does not have, and reading a
text also for what is wrong with the text (`Validator.Dependable`).

The date of another field can be had in two ways: from the formats of the message, as a message is validated here, or
by asking the cache for the format of that field when a rule comes to it (`Schema.validateAsking`). Neither fails, and
the result is the same.
-/
import DocumentaryCredit.Proofs.Message.Construction
import DocumentaryCredit.Proofs.Standards.Schemas

namespace DocumentaryCredit

/-! ## Asking for formats on the way -/

/-- The date that a value of the field carries, read with the format that the cache has for the field. -/
def FieldDefinition.findDate (d : FieldDefinition) (value : String) : Compiling FieldFormatError (Option Date) := do
  let format ← compiling (FieldFormatError.mk d.tag) d.formatSpec
  return CompiledField.date? ⟨d, format⟩ value

/-- What a field with a value does against a rule; for a date, the cache is asked for the formats of both fields. -/
def CrossFieldRule.findFailure (rule : CrossFieldRule) (schema : Schema) (values : FieldValues) (d : FieldDefinition)
    (value : String) : Compiling FieldFormatError (Option FieldFailure) :=
  match rule.relation with
  | .requires => return if values.isPresent rule.otherTag then none else some (.requires rule)
  | .excludedBy => return if values.isPresent rule.otherTag then some (.excluded rule) else none
  | .dateNotBefore =>
    match schema.field? rule.otherTag with
    | none => return none
    | some other => do
      let mine ← d.findDate value
      let theirs ← match (values.get? rule.otherTag).filter (!Text.isBlank ·) with
        | some otherValue => other.findDate otherValue
        | none => pure none
      return mine.bind fun mine => theirs.bind fun theirs =>
        if mine.before theirs then some (.dateBefore mine theirs rule) else none

/-- The first of some rules that a field breaks; the rules after it are not looked at. -/
def FieldDefinition.findFailure (d : FieldDefinition) (schema : Schema) (values : FieldValues) (value : String) :
    List CrossFieldRule → Compiling FieldFormatError (Option FieldFailure)
  | [] => return none
  | rule :: rules => do
    match ← rule.findFailure schema values d value with
    | some failure => return some failure
    | none => d.findFailure schema values value rules

/-- The result of a field whose rules ask for formats. -/
def CompiledField.findResult (f : CompiledField) (schema : Schema) (values : FieldValues) :
    Compiling FieldFormatError FieldResult :=
  let own := f.definition.validate f.format (values.get? f.definition.tag)
  match (values.get? f.definition.tag).filter (!Text.isBlank ·) with
  | none => return own
  | some value =>
    if own.isValid then
      return ⟨own.tag, ← f.definition.findFailure schema values value f.definition.crossFieldRules⟩
    else return own

/-- The result of a message, with the formats of fields asked for once more where a rule looks at dates. -/
def Schema.validateAsking (schema : Schema) (values : FieldValues) : Compiling FieldFormatError MessageResult := do
  let values := normalizeValues values
  let fields ← schema.compileFields
  let results ← fields.mapM (·.findResult schema values)
  return ⟨schema.messageType, results ++ schema.unknownFields values⟩

section Asking

variable {schema : Schema} {fields : List CompiledField} {values : FieldValues} {f : CompiledField} {value : String}

theorem CompiledField.yields_findDate (hf : Format.compile f.definition.formatSpec = .ok f.format) :
    Compiling.Yields (f.definition.findDate value) (· = f.date? value) :=
  (Compiling.yields_compiling hf).bind fun format hformat => .pure (by rw [hformat])

/-- The field of a tag is among the fields with their formats. -/
theorem Schema.CompilesTo.field?_eq (hfields : schema.CompilesTo fields) (tag : String) : schema.field? tag =
    (fields.find? fun g => Text.equalIgnoringCase g.definition.tag tag).map (·.definition) := by
  rw [Schema.field?, ← hfields.definitions, List.find?_map]
  rfl

theorem CrossFieldRule.yields_findFailure (hfields : schema.CompilesTo fields) (hf : f ∈ fields)
    (rule : CrossFieldRule) : Compiling.Yields (rule.findFailure schema values f.definition value)
      (· = rule.failure? fields values f value) := by
  obtain ⟨relation, other⟩ := rule
  cases relation with
  | requires => exact .pure rfl
  | excludedBy => exact .pure rfl
  | dateNotBefore =>
    simp only [findFailure, failure?, hfields.field?_eq]
    cases hother : fields.find? fun g => Text.equalIgnoringCase g.definition.tag other with
    | none => exact .pure rfl
    | some g =>
      have hg : g ∈ fields := List.mem_of_find?_eq_some hother
      refine (CompiledField.yields_findDate (hfields.formats f hf)).bind fun mine hmine => ?_
      cases hvalue : (values.get? other).filter (!Text.isBlank ·) with
      | none =>
        refine (Compiling.Yields.pure (P := (· = none)) rfl).bind fun theirs htheirs => .pure ?_
        rw [hmine, htheirs]
        rfl
      | some otherValue =>
        refine (CompiledField.yields_findDate (hfields.formats g hg)).bind fun theirs htheirs => .pure ?_
        rw [hmine, htheirs]
        rfl

theorem FieldDefinition.yields_findFailure (hfields : schema.CompilesTo fields) (hf : f ∈ fields) :
    ∀ rules : List CrossFieldRule, Compiling.Yields (f.definition.findFailure schema values value rules)
      (· = rules.findSome? (·.failure? fields values f value))
  | [] => .pure rfl
  | rule :: rules => by
    refine (rule.yields_findFailure hfields hf).bind fun failure hfailure => ?_
    rw [List.findSome?_cons, ← hfailure]
    cases failure with
    | some failure => exact .pure rfl
    | none => exact yields_findFailure hfields hf rules

theorem CompiledField.yields_findResult (hfields : schema.CompilesTo fields) (hf : f ∈ fields) :
    Compiling.Yields (f.findResult schema values) (· = f.validate fields values) := by
  cases hvalue : (values.get? f.definition.tag).filter (!Text.isBlank ·) with
  | none =>
    simp only [findResult, CompiledField.validate, hvalue]
    exact .pure rfl
  | some value =>
    cases hown : (f.definition.validate f.format (values.get? f.definition.tag)).isValid with
    | false =>
      simp only [findResult, CompiledField.validate, hvalue, hown]
      exact .pure rfl
    | true =>
      simp only [findResult, CompiledField.validate, hvalue, hown, if_true]
      exact (FieldDefinition.yields_findFailure hfields hf _).bind fun failure hfailure => .pure (by rw [hfailure])

/-- Rules that ask for formats find what rules find that are given them. -/
theorem Schema.yields_validateAsking (h : schema.WellFormed) (hfields : schema.CompilesTo fields)
    (input : FieldValues) :
    Compiling.Yields (schema.validateAsking input) (· = schema.resultOf fields (normalizeValues input)) := by
  refine (Schema.yields_compileFields h).bind fun made hmade => ?_
  obtain rfl := hfields.unique hmade
  have hresults : ∀ f ∈ fields, Compiling.Yields (f.findResult schema (normalizeValues input))
      (fun result => result = f.validate fields (normalizeValues input)) := fun f hf => f.yields_findResult hfields hf
  refine (Compiling.Yields.mapM hresults).bind fun results hall => .pure ?_
  have heq : results = fields.map (·.validate fields (normalizeValues input)) := by
    rw [← List.forall₂_eq_eq_eq, List.forall₂_map_right_iff]
    exact hall.flip
  rw [heq, resultOf]

end Asking

/-! ## What a validator answers -/

/-- A message with a valid result is built, and any other is rejected with its result. -/
theorem Schema.construct_of_validate {schema : Schema} {values : FieldValues} {cache cache' : FormatCache}
    {result : MessageResult} (h : schema.validate values cache = (.ok result, cache')) :
    schema.construct values cache = (.ok (if result.isValid then
      .constructed ⟨schema.messageType, schema.serialize (normalizeValues values),
        (schema.entries (normalizeValues values)).length, schema.fields.length⟩
      else .rejected result), cache') := by
  rw [construct, Compiling.bind_apply, h]
  cases hvalid : result.isValid <;> simp only [hvalid] <;> rfl

namespace Validator

/-- The rule book does not have the message type, and the error says so. -/
def Lacks (v : Validator) (messageType : String) (e : ValidatorError) : Prop :=
  v.book.schemas.get? (normalizeMessageType messageType) = none ∧
    e = .unknownMessageType (normalizeMessageType messageType)

/-- The answers about the messages of one schema, whose fields have been compiled. -/
structure AnswersFor (v : Validator) (formats : FormatCache) (messageType : String) (schema : Schema)
    (fields : List CompiledField) : Prop where
  validateField : ∀ tag value, ∃ result,
    (v.validateField messageType tag value formats).1 = .ok result ∧ schema.ReportsAlone tag value result
  validate : ∀ values,
    (v.validate messageType values formats).1 = .ok (schema.resultOf fields (normalizeValues values))
  validateAsking : ∀ values,
    (schema.validateAsking values formats).1 = .ok (schema.resultOf fields (normalizeValues values))
  rejects : ∀ values, (schema.resultOf fields (normalizeValues values)).isValid = false →
    (v.construct messageType values formats).1 = .ok (.rejected (schema.resultOf fields (normalizeValues values)))
  constructs : ∀ values, (schema.resultOf fields (normalizeValues values)).isValid = true →
    ∃ message, (v.construct messageType values formats).1 = .ok (.constructed message) ∧
      message.text = schema.serialize (normalizeValues values)
  parse : ∀ text values, TextBlock.read text = .ok values →
    (v.parse messageType text formats).1 = .ok ⟨values, schema.resultOf fields (normalizeValues values)⟩

/-- A validator fails for a message type that it does not have or a text that is no text block, and never for a
format. -/
structure Dependable (v : Validator) (formats : FormatCache) : Prop where
  validateField : ∀ messageType tag value e,
    (v.validateField messageType tag value formats).1 = .error e ↔ v.Lacks messageType e
  validate : ∀ messageType values e, (v.validate messageType values formats).1 = .error e ↔ v.Lacks messageType e
  construct : ∀ messageType values e, (v.construct messageType values formats).1 = .error e ↔ v.Lacks messageType e
  parse : ∀ messageType text e, (v.parse messageType text formats).1 = .error e ↔
    v.Lacks messageType e ∨ (∃ schema, v.book.schemas.get? (normalizeMessageType messageType) = some schema) ∧
      ∃ cause, TextBlock.read text = .error cause ∧ e = .textBlock cause
  answers : ∀ messageType schema, v.book.schemas.get? (normalizeMessageType messageType) = some schema →
    ∃ fields, schema.CompilesTo fields ∧ v.AnswersFor formats messageType schema fields

section

variable {v : Validator} {formats : FormatCache} {messageType : String} {schema : Schema} {α : Type}

theorem schema_of_some (h : v.book.schemas.get? (normalizeMessageType messageType) = some schema) :
    v.schema messageType = pure schema := by
  simp only [Validator.schema, RuleBook.schema, h]

theorem schema_of_none (h : v.book.schemas.get? (normalizeMessageType messageType) = none) :
    v.schema messageType = throw (.unknownMessageType (normalizeMessageType messageType)) := by
  simp only [Validator.schema, RuleBook.schema, h]

/-- Without a schema nothing is done. -/
theorem bind_of_lacks (h : v.book.schemas.get? (normalizeMessageType messageType) = none)
    (next : Schema → Compiling ValidatorError α) : ((v.schema messageType >>= next) formats).1 =
      .error (.unknownMessageType (normalizeMessageType messageType)) := by
  rw [schema_of_none h]
  rfl

theorem parse_of_malformed (h : v.book.schemas.get? (normalizeMessageType messageType) = some schema) {text : String}
    {cause : TextBlockError} (hread : TextBlock.read text = .error cause) :
    (v.parse messageType text formats).1 = .error (.textBlock cause) := by
  rw [Validator.parse, schema_of_some h, pure_bind, hread]
  rfl

/-- A step that does not fail once it has the schema fails for the lack of it. -/
theorem error_iff_lacks {next : Schema → Compiling ValidatorError α}
    (h : ∀ schema, v.book.schemas.get? (normalizeMessageType messageType) = some schema →
      ∃ a, ((v.schema messageType >>= next) formats).1 = .ok a) {e : ValidatorError} :
    ((v.schema messageType >>= next) formats).1 = .error e ↔ v.Lacks messageType e := by
  unfold Lacks
  cases hschema : v.book.schemas.get? (normalizeMessageType messageType) with
  | none =>
    rw [bind_of_lacks hschema]
    simp [eq_comm]
  | some schema =>
    obtain ⟨a, ha⟩ := h schema hschema
    simp [ha]

theorem fst_compilingFields {step : Compiling FieldFormatError α} :
    (compilingFields step formats).1 = (step formats).1.mapError .fieldFormat := by
  unfold compilingFields
  rcases step formats with ⟨_ | a, _⟩ <;> rfl

theorem answersFor_of_wellFormed (hschema : v.book.schemas.get? (normalizeMessageType messageType) = some schema)
    (h : schema.WellFormed) (hformats : formats.Reachable) {fields : List CompiledField}
    (hfields : schema.CompilesTo fields) : v.AnswersFor formats messageType schema fields := by
  have hvalidate : ∀ values, (schema.validate values formats).1 =
      .ok (schema.resultOf fields (normalizeValues values)) := by
    intro values
    obtain ⟨after, hresult⟩ := Schema.exists_validate_eq hfields h hformats values
    rw [hresult]
  have hconstruct : ∀ values, (v.construct messageType values formats).1 =
      (schema.construct values formats).1.mapError .fieldFormat := by
    intro values
    rw [Validator.construct, schema_of_some hschema, pure_bind, fst_compilingFields]
  exact {
    validateField := by
      intro tag value
      have hbook : v.book.schema messageType = .ok schema := by simp only [RuleBook.schema, hschema]
      obtain ⟨result, after, hresult, hreports⟩ := Schema.exists_validateField_eq h hformats hbook tag value
      exact ⟨result, by rw [hresult], hreports⟩
    validate := by
      intro values
      rw [Validator.validate, schema_of_some hschema, pure_bind, fst_compilingFields, hvalidate]
      rfl
    validateAsking := by
      intro values
      obtain ⟨_, after, hresult, -, rfl⟩ := Schema.yields_validateAsking h hfields values formats hformats
      rw [hresult]
    rejects := by
      intro values hinvalid
      obtain ⟨after, hresult⟩ := Schema.exists_validate_eq hfields h hformats values
      rw [hconstruct, Schema.construct_of_validate hresult, hinvalid]
      rfl
    constructs := by
      intro values hvalid
      obtain ⟨after, hresult⟩ := Schema.exists_validate_eq hfields h hformats values
      rw [hconstruct, Schema.construct_of_validate hresult, hvalid]
      exact ⟨_, rfl, rfl⟩
    parse := by
      intro text values hread
      obtain ⟨after, hresult⟩ := Schema.exists_validate_eq hfields h hformats values
      rw [Validator.parse, schema_of_some hschema, pure_bind, hread]
      simp only [Compiling.bind_apply, compilingFields, hresult]
      rfl }

/-- A text is answered with the fields that are read in it and their result. -/
theorem AnswersFor.parse_eq_ok_iff {fields : List CompiledField} (h : v.AnswersFor formats messageType schema fields)
    (hschema : v.book.schemas.get? (normalizeMessageType messageType) = some schema) {text : String}
    {parsed : ParsedMessage} : (v.parse messageType text formats).1 = .ok parsed ↔
      TextBlock.read text = .ok parsed.fields ∧
        parsed.validation = schema.resultOf fields (normalizeValues parsed.fields) := by
  cases hread : TextBlock.read text with
  | error cause =>
    rw [parse_of_malformed hschema hread]
    simp
  | ok values =>
    rw [h.parse text values hread]
    simp only [Except.ok.injEq]
    constructor
    · intro heq
      cases heq
      exact ⟨rfl, rfl⟩
    · intro ⟨hvalues, hresult⟩
      obtain ⟨read, validation⟩ := parsed
      obtain rfl : values = read := hvalues
      obtain rfl : validation = schema.resultOf fields (normalizeValues values) := hresult
      rfl

theorem dependable_of_wellFormed (h : v.book.WellFormed) (hformats : formats.Reachable) : v.Dependable formats := by
  have hanswers : ∀ messageType schema, v.book.schemas.get? (normalizeMessageType messageType) = some schema →
      ∃ fields, schema.CompilesTo fields ∧ v.AnswersFor formats messageType schema fields := by
    intro messageType schema hschema
    have hwell := h.schemas _ _ hschema
    obtain ⟨fields, -, -, -, hfields⟩ := Schema.yields_compileFields hwell formats hformats
    exact ⟨fields, hfields, answersFor_of_wellFormed hschema hwell hformats hfields⟩
  refine ⟨fun messageType tag value e => ?_, fun messageType values e => ?_, fun messageType values e => ?_,
    fun messageType text e => ?_, hanswers⟩
  · refine error_iff_lacks fun schema hschema => ?_
    obtain ⟨fields, -, hanswer⟩ := hanswers messageType schema hschema
    obtain ⟨result, hresult, -⟩ := hanswer.validateField tag value
    exact ⟨result, hresult⟩
  · refine error_iff_lacks fun schema hschema => ?_
    obtain ⟨fields, -, hanswer⟩ := hanswers messageType schema hschema
    exact ⟨_, hanswer.validate values⟩
  · refine error_iff_lacks fun schema hschema => ?_
    obtain ⟨fields, -, hanswer⟩ := hanswers messageType schema hschema
    cases hvalid : (schema.resultOf fields (normalizeValues values)).isValid with
    | false => exact ⟨_, hanswer.rejects values hvalid⟩
    | true =>
      obtain ⟨message, hmessage, -⟩ := hanswer.constructs values hvalid
      exact ⟨_, hmessage⟩
  · cases hread : TextBlock.read text with
    | ok values =>
      have hlacks : (v.parse messageType text formats).1 = .error e ↔ v.Lacks messageType e := by
        refine error_iff_lacks fun schema hschema => ?_
        obtain ⟨fields, -, hanswer⟩ := hanswers messageType schema hschema
        exact ⟨_, hanswer.parse text values hread⟩
      simp [hlacks]
    | error cause =>
      cases hschema : v.book.schemas.get? (normalizeMessageType messageType) with
      | none =>
        rw [Validator.parse, bind_of_lacks hschema]
        simp [Lacks, hschema, eq_comm]
      | some schema =>
        rw [parse_of_malformed hschema hread]
        simp [Lacks, hschema, eq_comm]

end

end Validator

/-- **The validator of a loaded rule book never fails for a format**, with whatever formats were compiled before, by
whomever and in whatever order. -/
theorem RuleBook.dependable_of_load {tree : FileTree} {directory : String} {cache cache' formats : FormatCache}
    {book : RuleBook} {summary : RuleBookSummary} (hcache : cache.Reachable)
    (h : RuleBook.load tree directory cache = (.ok (book, summary), cache')) (hformats : formats.Reachable) :
    (Validator.mk book).Dependable formats :=
  Validator.dependable_of_wellFormed (v := ⟨book⟩) (wellFormed_of_load hcache h) hformats

/-- The formats that the small rule book was loaded with are as good as none. -/
theorem RuleBook.dependable_of_load_smallBook : ∃ book summary cache, FormatCache.Reachable {} ∧
    RuleBook.load SmallBook.tree "s" {} = (.ok (book, summary), cache) ∧ cache.Reachable ∧
    (Validator.mk book).Dependable {} ∧ (Validator.mk book).Dependable cache := by
  obtain ⟨book, summary, cache, h⟩ := SmallBook.exists_load
  have hafter := ((steady_load SmallBook.tree "s").answer_eq .empty h).2
  exact ⟨book, summary, cache, .empty, h, hafter, dependable_of_load .empty h .empty,
    dependable_of_load .empty h hafter⟩

end DocumentaryCredit

/-
The result of a message, field by field. Each field of the schema has one result, at its own place: what is found of it
alone, unless nothing is, it has a value, and it breaks a rule that ties it to another field. Such a rule looks at the
values of the other field, never at its result, so that what is wrong with one field changes the result of no other
(`CrossFieldRule.Breaks`, `FieldDefinition.HasResult`).
-/
import DocumentaryCredit.Message.Validator
import DocumentaryCredit.Proofs.Computation
import DocumentaryCredit.Proofs.Message.Field
import DocumentaryCredit.Proofs.Message.Normalization
import DocumentaryCredit.Proofs.Order

namespace DocumentaryCredit

/-! ## What is to be reported -/

/-- The tags of a schema are distinct, trimmed and in capitals, and its specifications are formats. -/
structure Schema.WellFormed (schema : Schema) : Prop where
  nodup : (schema.fields.map (·.tag)).Nodup
  tags : ∀ f ∈ schema.fields, Text.asciiUpper (Text.trim f.tag) = f.tag
  formats : ∀ f ∈ schema.fields, ∃ format, Format.compile f.formatSpec = .ok format

/-- A value of a field matches its format, and its date component names a day. -/
def FieldDefinition.Carries (d : FieldDefinition) (value : String) (date : Date) : Prop :=
  ∃ format spans text, Format.compile d.formatSpec = .ok format ∧ format.matchSpans value = .ok spans ∧
    Format.segment? value spans d.dateComponent = some text ∧ Date.ofDigits? text.toList = some date

/-- The value under a tag of the schema carries a date. -/
def Schema.Dates (schema : Schema) (values : FieldValues) (tag : String) (date : Date) : Prop :=
  ∃ g ∈ schema.fields, g.tag = tag ∧ ∃ value, values.get? tag = some value ∧ g.Carries value date

/-- How a field with a value breaks a rule that ties it to another one, and what is reported then. -/
inductive CrossFieldRule.Breaks (schema : Schema) (values : FieldValues) (f : FieldDefinition) (value : String) :
    CrossFieldRule → FieldFailure → Prop where
  | requires {other : String} (h : other ∉ values.keys) :
    Breaks schema values f value ⟨.requires, other⟩ (.requires ⟨.requires, other⟩)
  | excluded {other : String} (h : other ∈ values.keys) :
    Breaks schema values f value ⟨.excludedBy, other⟩ (.excluded ⟨.excludedBy, other⟩)
  | dateBefore {other : String} {mine theirs : Date} (hmine : f.Carries value mine)
      (htheirs : schema.Dates values other theirs) (h : mine.key < theirs.key) :
    Breaks schema values f value ⟨.dateNotBefore, other⟩ (.dateBefore mine theirs ⟨.dateNotBefore, other⟩)

/-- The result of a field among the values of its message. -/
inductive FieldDefinition.HasResult (schema : Schema) (values : FieldValues) (f : FieldDefinition) :
    FieldResult → Prop where
  /-- The field has no value, or it is wrong by itself. -/
  | own {format : Format} (hformat : Format.compile f.formatSpec = .ok format)
      (h : f.tag ∉ values.keys ∨ (f.validate format (values.get? f.tag)).isValid = false) :
    HasResult schema values f (f.validate format (values.get? f.tag))
  /-- The value is right by itself and breaks no rule. -/
  | kept {format : Format} {value : String} (hformat : Format.compile f.formatSpec = .ok format)
      (hvalue : values.get? f.tag = some value) (hvalid : (f.validate format (some value)).isValid = true)
      (hrules : ∀ rule ∈ f.crossFieldRules, ∀ failure, ¬ rule.Breaks schema values f value failure) :
    HasResult schema values f (f.validate format (some value))
  /-- The value is right by itself, and `rule` is the first that it breaks. -/
  | broken {format : Format} {value : String} {before after : List CrossFieldRule} {rule : CrossFieldRule}
      {failure : FieldFailure} (hformat : Format.compile f.formatSpec = .ok format)
      (hvalue : values.get? f.tag = some value) (hvalid : (f.validate format (some value)).isValid = true)
      (hrules : f.crossFieldRules = before ++ rule :: after)
      (hbefore : ∀ r ∈ before, ∀ failure, ¬ r.Breaks schema values f value failure)
      (hbreaks : rule.Breaks schema values f value failure) (hkind : failure.kind = .ruleViolation) :
    HasResult schema values f ⟨f.tag, some failure⟩

/-- What the result of a message says of normal values. -/
structure Schema.Reports (schema : Schema) (values : FieldValues) (result : MessageResult) : Prop where
  messageType : result.messageType = schema.messageType
  /-- The fields of the schema in their order, and then the tags that it does not have in theirs. -/
  results : ∃ (own : List FieldResult) (unknown : List String),
    List.Forall₂ (FieldDefinition.HasResult schema values) schema.fields own ∧ unknown.Pairwise (· < ·) ∧
    (∀ tag, tag ∈ unknown ↔ tag ∈ values.keys ∧ ∀ f ∈ schema.fields, f.tag ≠ tag) ∧
    result.results = own ++ unknown.map fun tag => ⟨tag, some (.unknown schema.messageType (some tag))⟩
  missingMandatory : ∀ tag, tag ∈ result.missingMandatory.elements ↔
    tag ∉ values.keys ∧ ∃ f ∈ schema.fields, f.isMandatory = true ∧ f.tag = tag
  isValid : result.isValid = true ↔ ∀ r ∈ result.results, r.isValid = true

/-- The result of a field outside of a message. -/
inductive Schema.ReportsAlone (schema : Schema) (tag : String) (value : Option String) : FieldResult → Prop where
  | known {f : FieldDefinition} {format : Format} (hf : f ∈ schema.fields)
      (htag : f.tag = Text.asciiUpper (Text.trim tag)) (hformat : Format.compile f.formatSpec = .ok format) :
    ReportsAlone schema tag value (f.validate format value)
  | unknown (h : ∀ f ∈ schema.fields, f.tag ≠ Text.asciiUpper (Text.trim tag)) :
    ReportsAlone schema tag value ⟨tag, some (.unknown schema.messageType none)⟩

/-- All that a rule looks at of the other field is the same in two messages. -/
def CrossFieldRule.SeesAlike (schema : Schema) (values values' : FieldValues) (rule : CrossFieldRule) : Prop :=
  match rule.relation with
  | .requires | .excludedBy => rule.otherTag ∈ values.keys ↔ rule.otherTag ∈ values'.keys
  | .dateNotBefore => ∀ date, schema.Dates values rule.otherTag date ↔ schema.Dates values' rule.otherTag date

/-! ## Fields by their tags -/

namespace Schema.WellFormed

variable {schema : Schema} {tag : String}

theorem equalIgnoringCase_iff (h : schema.WellFormed) {f : FieldDefinition} (hf : f ∈ schema.fields) :
    Text.equalIgnoringCase f.tag tag = true ↔ f.tag = Text.asciiUpper tag := by
  rw [Text.equalIgnoringCase_iff, ← h.tags f hf, Text.asciiUpper_asciiUpper]

theorem field?_eq_some_iff (h : schema.WellFormed) {f : FieldDefinition} :
    schema.field? tag = some f ↔ f ∈ schema.fields ∧ f.tag = Text.asciiUpper tag :=
  find?_eq_some_iff_of_nodup h.nodup fun _ hf => h.equalIgnoringCase_iff hf

theorem field?_eq_none_iff (h : schema.WellFormed) :
    schema.field? tag = none ↔ ∀ f ∈ schema.fields, f.tag ≠ Text.asciiUpper tag := by
  simp only [Option.eq_none_iff_forall_ne_some, ne_eq, h.field?_eq_some_iff, not_and]

end Schema.WellFormed

/-! ## Fields with their formats -/

/-- The fields of a schema, each with what its specification compiles to. -/
structure Schema.CompilesTo (schema : Schema) (fields : List CompiledField) : Prop where
  definitions : fields.map (·.definition) = schema.fields
  formats : ∀ f ∈ fields, Format.compile f.definition.formatSpec = .ok f.format

theorem Schema.yields_compileFields {schema : Schema} (h : schema.WellFormed) :
    Compiling.Yields schema.compileFields schema.CompilesTo := by
  have hstep : ∀ d ∈ schema.fields, Compiling.Yields
      (do return ⟨d, ← compiling (FieldFormatError.mk d.tag) d.formatSpec⟩ : Compiling FieldFormatError CompiledField)
      (flip (fun f d => Format.compile f.definition.formatSpec = .ok f.format ∧ f.definition = d) d) := by
    intro d hd
    obtain ⟨format, hformat⟩ := h.formats d hd
    refine (Compiling.yields_compiling hformat).bind fun made hmade => .pure ⟨?_, rfl⟩
    rw [hmade]
    exact hformat
  refine (Compiling.Yields.mapM hstep).imp fun fields hall => ?_
  obtain ⟨hformats, hdefinitions⟩ := (List.forall₂_and_left _ _).1 hall.flip
  rw [← List.forall₂_map_left_iff, List.forall₂_eq_eq_eq] at hdefinitions
  exact ⟨hdefinitions, hformats⟩

section Compiled

variable {schema : Schema} {fields : List CompiledField} {values : FieldValues} {f : CompiledField} {value : String}

theorem CompiledField.date?_eq_some_iff {date : Date} (hf : Format.compile f.definition.formatSpec = .ok f.format) :
    f.date? value = some date ↔ f.definition.Carries value date := by
  unfold date? FieldDefinition.Carries
  rw [hf]
  cases hspans : f.format.matchSpans value with
  | error _ => simp [hspans]
  | ok spans => simp [hspans, Option.bind_eq_some_iff]

namespace Schema.CompilesTo

theorem mem_definitions (hfields : schema.CompilesTo fields) (hf : f ∈ fields) : f.definition ∈ schema.fields :=
  hfields.definitions ▸ List.mem_map_of_mem hf

theorem find?_eq_some_iff (hfields : schema.CompilesTo fields) (h : schema.WellFormed) {tag : String} :
    (fields.find? fun g => Text.equalIgnoringCase g.definition.tag tag) = some f ↔
      f ∈ fields ∧ f.definition.tag = Text.asciiUpper tag := by
  have hnodup : (fields.map fun g => g.definition.tag).Nodup := by
    have := h.nodup
    rwa [← hfields.definitions, List.map_map] at this
  exact find?_eq_some_iff_of_nodup hnodup fun _ hg => h.equalIgnoringCase_iff (hfields.mem_definitions hg)

/-- The date that is read of another field is the one that its value carries. -/
theorem dates_iff (hfields : schema.CompilesTo fields) (h : schema.WellFormed)
    (hnormal : values.IsNormal) {tag : String} {date : Date} :
    (∃ g, (fields.find? fun g => Text.equalIgnoringCase g.definition.tag tag) = some g ∧
      ((values.get? tag).filter (!Text.isBlank ·)).bind g.date? = some date) ↔ schema.Dates values tag date := by
  simp only [hfields.find?_eq_some_iff h, hnormal.filter_get?, Option.bind_eq_some_iff]
  constructor
  · rintro ⟨g, ⟨hg, htag⟩, value, hget, hdate⟩
    rw [hnormal.asciiUpper_key (TextMap.mem_keys_iff.2 ⟨value, hget⟩)] at htag
    exact ⟨g.definition, hfields.mem_definitions hg, htag, value, hget,
      (CompiledField.date?_eq_some_iff (hfields.formats g hg)).1 hdate⟩
  · rintro ⟨d, hd, htag, value, hget, hcarries⟩
    rw [← hfields.definitions] at hd
    obtain ⟨g, hg, rfl⟩ := List.mem_map.1 hd
    rw [← hnormal.asciiUpper_key (TextMap.mem_keys_iff.2 ⟨value, hget⟩)] at htag
    exact ⟨g, ⟨hg, htag⟩, value, hget, (CompiledField.date?_eq_some_iff (hfields.formats g hg)).2 hcarries⟩

end Schema.CompilesTo

/-! ## Rules between fields -/

theorem CrossFieldRule.failure?_eq_some_iff (hfields : schema.CompilesTo fields) (h : schema.WellFormed)
    (hnormal : values.IsNormal) (hf : f ∈ fields) {rule : CrossFieldRule} {failure : FieldFailure} :
    rule.failure? fields values f value = some failure ↔ rule.Breaks schema values f.definition value failure := by
  obtain ⟨relation, other⟩ := rule
  cases relation with
  | requires =>
    simp only [failure?, hnormal.isPresent_iff]
    constructor
    · intro hsome
      split at hsome
      · cases hsome
      · next habsent =>
        cases hsome
        exact .requires habsent
    · intro hbreaks
      cases hbreaks with
      | requires habsent => rw [if_neg habsent]
  | excludedBy =>
    simp only [failure?, hnormal.isPresent_iff]
    constructor
    · intro hsome
      split at hsome
      · next hpresent =>
        cases hsome
        exact .excluded hpresent
      · cases hsome
    · intro hbreaks
      cases hbreaks with
      | excluded hpresent => rw [if_pos hpresent]
  | dateNotBefore =>
    simp only [failure?, Option.bind_eq_bind, Option.bind_eq_some_iff, Date.before_iff,
      CompiledField.date?_eq_some_iff (hfields.formats f hf)]
    constructor
    · rintro ⟨g, hg, mine, hmine, theirs, htheirs, hsome⟩
      split at hsome
      · next hbefore =>
        cases hsome
        exact .dateBefore hmine ((hfields.dates_iff h hnormal).1 ⟨g, hg, Option.bind_eq_some_iff.2 htheirs⟩) hbefore
      · cases hsome
    · intro hbreaks
      cases hbreaks with
      | dateBefore hmine htheirs hbefore =>
        obtain ⟨g, hg, hdate⟩ := (hfields.dates_iff h hnormal).2 htheirs
        exact ⟨g, hg, _, hmine, _, Option.bind_eq_some_iff.1 hdate, if_pos hbefore⟩

theorem CrossFieldRule.Breaks.kind_eq {d : FieldDefinition} {rule : CrossFieldRule} {failure : FieldFailure}
    (h : rule.Breaks schema values d value failure) : failure.kind = .ruleViolation := by
  cases h <;> rfl

theorem CrossFieldRule.SeesAlike.symm {values' : FieldValues} {rule : CrossFieldRule}
    (h : rule.SeesAlike schema values values') : rule.SeesAlike schema values' values := by
  unfold SeesAlike at *
  split at h
  · exact h.symm
  · exact h.symm
  · exact fun date => (h date).symm

theorem CrossFieldRule.Breaks.congr {values' : FieldValues} {d : FieldDefinition} {rule : CrossFieldRule}
    {failure : FieldFailure} (h : rule.SeesAlike schema values values')
    (hbreaks : rule.Breaks schema values d value failure) : rule.Breaks schema values' d value failure := by
  cases hbreaks with
  | requires habsent => exact .requires fun hpresent => habsent (h.2 hpresent)
  | excluded hpresent => exact .excluded (h.1 hpresent)
  | dateBefore hmine htheirs hbefore => exact .dateBefore hmine ((h _).1 htheirs) hbefore

/-! ## The results of the fields -/

namespace CompiledField

theorem hasResult_validate (hfields : schema.CompilesTo fields) (h : schema.WellFormed) (hnormal : values.IsNormal)
    (hf : f ∈ fields) : f.definition.HasResult schema values (f.validate fields values) := by
  have hformat := hfields.formats f hf
  have hbreaks : ∀ {rule : CrossFieldRule} {value : String} {failure : FieldFailure},
      rule.failure? fields values f value = some failure ↔ rule.Breaks schema values f.definition value failure :=
    CrossFieldRule.failure?_eq_some_iff hfields h hnormal hf
  cases hget : values.get? f.definition.tag with
  | none =>
    rw [validate_of_none hget, ← hget]
    exact .own hformat (.inl (by simp [TextMap.mem_keys_iff, hget]))
  | some value =>
    rw [validate_of_some hget (hnormal.not_isBlank hget)]
    split
    · next hvalid =>
      cases hfirst : f.definition.crossFieldRules.findSome? (·.failure? fields values f value) with
      | none =>
        rw [← FieldDefinition.isValid_validate_iff.1 hvalid]
        refine .kept hformat hget hvalid fun rule hrule failure hbroken => ?_
        rw [← hbreaks, List.findSome?_eq_none_iff.1 hfirst rule hrule] at hbroken
        cases hbroken
      | some failure =>
        obtain ⟨before, rule, after, hrules, hsome, hbefore⟩ := List.findSome?_eq_some_iff.1 hfirst
        refine .broken hformat hget hvalid hrules (fun r hr failure' hbroken => ?_) (hbreaks.1 hsome)
          (hbreaks.1 hsome).kind_eq
        rw [← hbreaks, hbefore r hr] at hbroken
        cases hbroken
    · next hinvalid =>
      rw [← hget] at hinvalid ⊢
      exact .own hformat (.inr (by simpa using hinvalid))

/-- The result of a field depends on its own value and on what its rules look at, and on nothing else. -/
theorem validate_congr {values' : FieldValues} (hfields : schema.CompilesTo fields) (h : schema.WellFormed)
    (hnormal : values.IsNormal) (hnormal' : values'.IsNormal) (hf : f ∈ fields)
    (hvalue : values.get? f.definition.tag = values'.get? f.definition.tag)
    (hrules : ∀ rule ∈ f.definition.crossFieldRules, rule.SeesAlike schema values values') :
    f.validate fields values = f.validate fields values' := by
  cases hget : values.get? f.definition.tag with
  | none => rw [validate_of_none hget, validate_of_none (hvalue.symm.trans hget)]
  | some value =>
    have hsame : f.definition.crossFieldRules.findSome? (·.failure? fields values f value) =
        f.definition.crossFieldRules.findSome? (·.failure? fields values' f value) := by
      rw [← List.head?_filterMap, ← List.head?_filterMap]
      refine congrArg List.head? (List.filterMap_congr fun rule hrule => Option.ext fun failure => ?_)
      rw [CrossFieldRule.failure?_eq_some_iff hfields h hnormal hf,
        CrossFieldRule.failure?_eq_some_iff hfields h hnormal' hf]
      exact ⟨.congr (hrules rule hrule), .congr (hrules rule hrule).symm⟩
    rw [validate_of_some hget (hnormal.not_isBlank hget),
      validate_of_some (hvalue.symm.trans hget) (hnormal.not_isBlank hget), hsame]

end CompiledField

/-- A field is reported as missing when it is mandatory and has no value. -/
theorem FieldDefinition.HasResult.missing_iff {d : FieldDefinition} {result : FieldResult} (hnormal : values.IsNormal)
    (h : d.HasResult schema values result) :
    result.failure.map (·.kind) = some .missingMandatoryField ↔ d.tag ∉ values.keys ∧ d.isMandatory = true := by
  cases h with
  | @own format =>
    cases hget : values.get? d.tag with
    | none => simpa [TextMap.mem_keys_iff, hget] using FieldDefinition.kind_of_absent
    | some value =>
      have hkind : ∀ failure, d.failure? format (some value) = some failure → failure.kind ≠ .missingMandatoryField :=
        fun _ => d.kind_ne_missing (hnormal.not_isBlank hget)
      simpa [TextMap.mem_keys_iff, hget] using hkind
  | kept _ hvalue hvalid =>
    simp [TextMap.mem_keys_iff, hvalue, FieldDefinition.isValid_validate_iff.1 hvalid]
  | broken _ hvalue _ _ _ _ hkind => simp [TextMap.mem_keys_iff, hvalue, hkind]

end Compiled

/-! ## The result of the message -/

namespace Schema

variable {schema : Schema} {fields : List CompiledField} {values input : FieldValues} {cache : FormatCache}

/-- The result of a message whose fields have been compiled. -/
def resultOf (schema : Schema) (fields : List CompiledField) (values : FieldValues) : MessageResult :=
  ⟨schema.messageType, fields.map (·.validate fields values) ++ schema.unknownFields values⟩

theorem unknownFields_eq (h : schema.WellFormed) (hnormal : values.IsNormal) :
    ∃ unknown : List String, unknown.Pairwise (· < ·) ∧
      (∀ tag, tag ∈ unknown ↔ tag ∈ values.keys ∧ ∀ f ∈ schema.fields, f.tag ≠ tag) ∧
      schema.unknownFields values = unknown.map fun tag => ⟨tag, some (.unknown schema.messageType (some tag))⟩ := by
  refine ⟨values.keys.filter fun tag => (schema.field? tag).isNone, ?_, fun tag => ?_, rfl⟩
  · exact (List.pairwise_map.2 values.ascending).filter _
  · rw [List.mem_filter]
    refine and_congr_right fun hmem => ?_
    rw [Option.isNone_iff_eq_none, h.field?_eq_none_iff, hnormal.asciiUpper_key hmem]

theorem mem_missingMandatory_iff (hfields : schema.CompilesTo fields) (h : schema.WellFormed)
    (hnormal : values.IsNormal) {tag : String} :
    tag ∈ (schema.resultOf fields values).missingMandatory.elements ↔
      tag ∉ values.keys ∧ ∃ f ∈ schema.fields, f.isMandatory = true ∧ f.tag = tag := by
  have hunknown : ∀ r ∈ schema.unknownFields values, r.failure.map (·.kind) ≠ some .missingMandatoryField := by
    intro r hr
    obtain ⟨tag, -, rfl⟩ := List.mem_map.1 hr
    nofun
  have hown : ∀ f ∈ fields, (f.validate fields values).failure.map (·.kind) = some .missingMandatoryField ↔
      f.definition.tag ∉ values.keys ∧ f.definition.isMandatory = true := fun f hf =>
    (f.hasResult_validate hfields h hnormal hf).missing_iff hnormal
  simp only [MessageResult.missingMandatory, TextSet.mem_ofList_iff, List.mem_map, List.mem_filter, beq_iff_eq, resultOf,
    List.mem_append]
  constructor
  · rintro ⟨r, ⟨⟨f, hf, rfl⟩ | hr, hmissing⟩, rfl⟩
    · rw [hown f hf] at hmissing
      rw [CompiledField.validate_tag]
      exact ⟨hmissing.1, f.definition, hfields.mem_definitions hf, hmissing.2, rfl⟩
    · exact absurd hmissing (hunknown r hr)
  · rintro ⟨habsent, d, hd, hmandatory, rfl⟩
    rw [← hfields.definitions] at hd
    obtain ⟨f, hf, rfl⟩ := List.mem_map.1 hd
    exact ⟨f.validate fields values, ⟨.inl ⟨f, hf, rfl⟩, (hown f hf).2 ⟨habsent, hmandatory⟩⟩, f.validate_tag⟩

theorem reports_resultOf (hfields : schema.CompilesTo fields) (h : schema.WellFormed) (hnormal : values.IsNormal) :
    schema.Reports values (schema.resultOf fields values) where
  messageType := rfl
  results := by
    obtain ⟨unknown, hascending, hmem, hunknown⟩ := unknownFields_eq h hnormal
    refine ⟨fields.map (·.validate fields values), unknown, ?_, hascending, hmem, by rw [resultOf, hunknown]⟩
    rw [← hfields.definitions, List.forall₂_map_left_iff, List.forall₂_map_right_iff, List.forall₂_same]
    exact fun f hf => f.hasResult_validate hfields h hnormal hf
  missingMandatory tag := mem_missingMandatory_iff hfields h hnormal
  isValid := List.all_eq_true

/-- Fields are compiled in one way only. -/
theorem CompilesTo.unique {fields' : List CompiledField} (hfields : schema.CompilesTo fields)
    (hfields' : schema.CompilesTo fields') : fields = fields' := by
  let key (f : CompiledField) : FieldDefinition × Except FormatError Format := (f.definition, .ok f.format)
  have hkey : Function.Injective key := by
    rintro ⟨d, format⟩ ⟨d', format'⟩ heq
    cases heq
    rfl
  have hmap : ∀ {l : List CompiledField}, schema.CompilesTo l →
      l.map key = schema.fields.map fun d => (d, Format.compile d.formatSpec) := by
    intro l hl
    rw [← hl.definitions, List.map_map]
    exact List.map_congr_left fun f hf => by simp [key, hl.formats f hf]
  exact List.map_injective_iff.2 hkey ((hmap hfields).trans (hmap hfields').symm)

theorem exists_validate_eq (hfields : schema.CompilesTo fields) (h : schema.WellFormed) (hcache : cache.Reachable)
    (input : FieldValues) :
    ∃ cache', schema.validate input cache = (.ok (schema.resultOf fields (normalizeValues input)), cache') := by
  obtain ⟨made, mid, hmade, -, hcompiled⟩ := yields_compileFields h cache hcache
  obtain rfl := hcompiled.unique hfields
  exact ⟨mid, Compiling.bind_eq_ok_iff.2 ⟨made, mid, hmade, rfl⟩⟩

theorem exists_validateField_eq (h : schema.WellFormed) (hcache : cache.Reachable) {v : Validator}
    {messageType : String} (hv : v.book.schema messageType = .ok schema) (tag : String) (value : Option String) :
    ∃ r cache', v.validateField messageType tag value cache = (.ok r, cache') ∧ schema.ReportsAlone tag value r := by
  have hschema : v.schema messageType = pure schema := by simp only [Validator.schema, hv]
  unfold Validator.validateField
  rw [hschema, pure_bind]
  cases hfield : schema.field? (Text.trim tag) with
  | none => exact ⟨_, cache, rfl, .unknown (h.field?_eq_none_iff.1 hfield)⟩
  | some d =>
    obtain ⟨hd, htag⟩ := h.field?_eq_some_iff.1 hfield
    obtain ⟨format, hformat⟩ := h.formats d hd
    have hstep : Compiling.Yields (compiling (FieldFormatError.mk d.tag) d.formatSpec) (· = format) :=
      Compiling.yields_compiling hformat
    obtain ⟨made, cache', hmade, -, rfl⟩ := hstep cache hcache
    refine ⟨d.validate made value, cache', Compiling.bind_eq_ok_iff.2 ⟨made, cache', ?_, rfl⟩, .known hd htag hformat⟩
    simp only [Validator.compilingFields, hmade]

/-- **A message is reported on field by field**, whatever formats were compiled before. Validation answers with the
result of each field of the schema and of each tag that it does not have (`Reports`). The result of a field is the same
in any other message, validated with whatever formats, that has the same value of the field and looks the same to its
rules, whatever is wrong with the other fields of either. Outside of a message a field is validated in the same way, but
for the rules that tie it to others. -/
theorem reports_validate (hschema : schema.WellFormed) (hcache : cache.Reachable) (input : FieldValues) :
    ∃ result cache', schema.validate input cache = (.ok result, cache') ∧
      schema.Reports (normalizeValues input) result ∧
      (∀ (formats : FormatCache) (input' : FieldValues) (i : Nat) (f : FieldDefinition), formats.Reachable →
        schema.fields[i]? = some f → (normalizeValues input).get? f.tag = (normalizeValues input').get? f.tag →
        (∀ rule ∈ f.crossFieldRules, rule.SeesAlike schema (normalizeValues input) (normalizeValues input')) →
        ∃ result' formats', schema.validate input' formats = (.ok result', formats') ∧
          result'.results[i]? = result.results[i]?) ∧
      ∀ (v : Validator) (messageType tag : String) (value : Option String),
        v.book.schema messageType = .ok schema →
        ∃ r cache'', v.validateField messageType tag value cache = (.ok r, cache'') ∧
          schema.ReportsAlone tag value r := by
  obtain ⟨fields, -, -, -, hfields⟩ := yields_compileFields hschema cache hcache
  obtain ⟨cache', hvalidate⟩ := exists_validate_eq hfields hschema hcache input
  have hnormal := isNormal_normalizeValues input
  refine ⟨_, cache', hvalidate, reports_resultOf hfields hschema hnormal, ?_,
    fun v messageType tag value hv => exists_validateField_eq hschema hcache hv tag value⟩
  intro formats input' i f hformats hi hvalue hrules
  obtain ⟨formats', hvalidate'⟩ := exists_validate_eq hfields hschema hformats input'
  refine ⟨_, formats', hvalidate', ?_⟩
  rw [← hfields.definitions, List.getElem?_map, Option.map_eq_some_iff] at hi
  obtain ⟨g, hg, rfl⟩ := hi
  have hresult : ∀ values, (schema.resultOf fields values).results[i]? = some (g.validate fields values) := by
    intro values
    rw [resultOf, List.getElem?_append_left (by simpa using (List.getElem?_eq_some_iff.1 hg).1), List.getElem?_map, hg]
    rfl
  rw [hresult, hresult, g.validate_congr hfields hschema hnormal (isNormal_normalizeValues input')
    (List.mem_of_getElem? hg) hvalue hrules]

/-- Some fields of an amendment. -/
def amendment : Schema where
  messageType := "707"
  name := "Amendment to a Documentary Credit"
  version := "1"
  fields := [
    ⟨"20", "Sender's Reference", "16x", true, 1, none, 1, []⟩,
    ⟨"31C", "Date of Issue", "6!n", false, 2, none, 1, [.date 0]⟩,
    ⟨"30", "Date of Amendment", "6!n", false, 3, none, 1, [.date 0, .crossField ⟨.dateNotBefore, "31C"⟩]⟩,
    ⟨"32B", "Increase of Amount", "3!a15d", false, 4, none, 1,
      [.crossField ⟨.excludedBy, "33B"⟩, .crossField ⟨.requires, "34B"⟩]⟩]

/-- What is stated of an amendment. -/
def amendmentValues : FieldValues := .ofList [("99Z", "X"), ("31c ", "240930"), ("30", "240901"), ("32B", "USD100,")]

/-- The reference is missing, the amendment is older than the credit, and the new amount is not stated; the date that
the amendment is compared with stays valid. -/
theorem reports_validate_amendment :
    amendment.WellFormed ∧ FormatCache.Reachable {} ∧ ∃ result cache',
      amendment.validate amendmentValues {} = (.ok result, cache') ∧
      amendment.Reports (normalizeValues amendmentValues) result ∧
      result.results = [
        ⟨"20", some (.missing "Sender's Reference" "16x")⟩,
        ⟨"31C", none⟩,
        ⟨"30", some (.dateBefore ⟨2024, 9, 1, by decide⟩ ⟨2024, 9, 30, by decide⟩ ⟨.dateNotBefore, "31C"⟩)⟩,
        ⟨"32B", some (.requires ⟨.requires, "34B"⟩)⟩,
        ⟨"99Z", some (.unknown "707" (some "99Z"))⟩] := by
  have hformats : ∀ f ∈ amendment.fields, (Format.compile f.formatSpec).toOption.isSome = true := by decide +kernel
  have hschema : amendment.WellFormed :=
    ⟨by decide, by decide, fun f hf => by
      simpa [Option.isSome_iff_exists, Except.toOption_eq_some_iff] using hformats f hf⟩
  obtain ⟨result, cache', hvalidate, hreports, -⟩ := reports_validate hschema .empty amendmentValues
  refine ⟨hschema, .empty, result, cache', hvalidate, hreports, ?_⟩
  have hresult : (amendment.validate amendmentValues {}).1.map (·.results) = .ok result.results := by
    rw [hvalidate]
    rfl
  refine Except.ok.inj (hresult.symm.trans ?_)
  decide +kernel

end Schema

end DocumentaryCredit

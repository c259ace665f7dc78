/-
Messages that are built read back. A message is built from values that are valid, so that every value has a tag of the
schema and was matched by the format of its field. No format matches a value in which a line other than the first
starts with a colon, which is all that the text block cannot carry.
-/
import DocumentaryCredit.Proofs.Computation
import DocumentaryCredit.Proofs.Format.BlockText
import DocumentaryCredit.Proofs.Message.Field
import DocumentaryCredit.Proofs.Message.Normalization
import DocumentaryCredit.Proofs.Message.TextBlock
import Mathlib.Data.List.Forall2

namespace DocumentaryCredit

/-! ## Values that are matched -/

/-- A value that a format matches has no line but the first that starts with a colon. -/
theorem readsBack_of_matchSpans {format : Format} {value : String} {spans : List (Option Span)}
    (h : format.matchSpans value = .ok spans) : TextBlock.ReadsBack value.toList := by
  intro line hline hhead
  exact ((Format.decomposition_of_matchSpans h).walk.opens_of_mem_tail_splitOn line hline ':' hhead).1 rfl

theorem CompiledField.exists_matchSpans {fields : List CompiledField} {values : FieldValues} {f : CompiledField}
    {raw : String} (hget : values.get? f.definition.tag = some raw) (hpresent : Text.isBlank raw = false)
    (h : (f.validate fields values).isValid = true) :
    ∃ spans, f.format.matchSpans (Text.normalizeLineBreaks raw) = .ok spans := by
  suffices hown : f.definition.failure? f.format (some raw) = none by
    obtain ⟨spans, hspans, -⟩ := f.definition.exists_matchSpans hpresent hown
    exact ⟨spans, hspans⟩
  rw [validate_of_some hget hpresent] at h
  split at h
  · next hown => exact FieldDefinition.isValid_validate_iff.1 hown
  · exact FieldDefinition.isValid_validate_iff.1 h

/-! ## Values that are accepted -/

/-- Every value has a tag of the schema and is matched by a format. -/
structure Schema.Accepts (schema : Schema) (values : FieldValues) : Prop where
  known : ∀ e ∈ values.entries, ∃ f ∈ schema.fields, f.tag = e.1
  matched : ∀ e ∈ values.entries, ∃ (format : Format) (spans : _), format.matchSpans e.2 = .ok spans

theorem Text.asciiUpper_of_isTag {tag : String} (h : TextBlock.isTag tag.toList = true) :
    Text.asciiUpper tag = tag := by
  have hchars : ∀ c ∈ tag.toList, c.toNat ≤ 90 := by
    intro c hc
    rcases TextBlock.mem_of_isTag h c hc with hdigit | hcapital
    · exact (Text.isDigit_iff.1 hdigit).2.trans (by decide)
    · exact (Text.isUpper_iff.1 hcapital).2
  rw [Text.asciiUpper, Text.map_toUpper_eq_self hchars, String.ofList_toList]

namespace Schema

variable {schema : Schema} {values : FieldValues} {cache cache' : FormatCache}

theorem definitions_of_compileFields {fields : List CompiledField}
    (h : schema.compileFields cache = (.ok fields, cache')) : fields.map (·.definition) = schema.fields := by
  have hstep : ∀ {d : FieldDefinition} {f : CompiledField}, (∃ before after : FormatCache,
      (do return ⟨d, ← compiling (FieldFormatError.mk d.tag) d.formatSpec⟩ : Compiling FieldFormatError CompiledField)
        before = (.ok f, after)) → d = f.definition := by
    rintro d f ⟨before, after, hd⟩
    obtain ⟨format, mid, -, hd⟩ := Compiling.bind_eq_ok_iff.1 hd
    obtain ⟨rfl, -⟩ := Compiling.pure_eq_ok_iff.1 hd
    rfl
  have hall : List.Forall₂ (fun d f => d = CompiledField.definition f) schema.fields fields :=
    (Compiling.forall₂_of_mapM h).imp fun _ _ => hstep
  rw [← List.forall₂_map_right_iff, List.forall₂_eq_eq_eq] at hall
  exact hall.symm

theorem exists_of_validate {result : MessageResult} (h : schema.validate values cache = (.ok result, cache')) :
    ∃ fields : List CompiledField, fields.map (·.definition) = schema.fields ∧
      result = ⟨schema.messageType, fields.map (·.validate fields (normalizeValues values)) ++
        schema.unknownFields (normalizeValues values)⟩ := by
  obtain ⟨fields, mid, hfields, h⟩ := Compiling.bind_eq_ok_iff.1 h
  obtain ⟨rfl, -⟩ := Compiling.pure_eq_ok_iff.1 h
  exact ⟨fields, definitions_of_compileFields hfields, rfl⟩

/-- Where no unknown field is reported, every tag is one of the schema. -/
theorem exists_of_unknownFields (hcapitals : ∀ f ∈ schema.fields, Text.asciiUpper f.tag = f.tag)
    (hnormal : values.IsNormal) (hvalid : ∀ r ∈ schema.unknownFields values, r.isValid = true) :
    ∀ e ∈ values.entries, ∃ f ∈ schema.fields, f.tag = e.1 := by
  intro e he
  have hfield : (schema.field? e.1).isSome = true := by
    by_contra hnone
    have hmem : (⟨e.1, some (.unknown schema.messageType (some e.1))⟩ : FieldResult) ∈ schema.unknownFields values := by
      refine List.mem_map.2 ⟨e.1, List.mem_filter.2 ⟨List.mem_map_of_mem he, ?_⟩, rfl⟩
      simpa using hnone
    simpa [FieldResult.isValid] using hvalid _ hmem
  obtain ⟨f, hf⟩ := Option.isSome_iff_exists.1 hfield
  have hmem : f ∈ schema.fields := List.mem_of_find?_eq_some hf
  have hsame : Text.equalIgnoringCase f.tag e.1 = true := by simpa using List.find?_some hf
  exact ⟨f, hmem, Text.eq_of_equalIgnoringCase (hcapitals f hmem) (hnormal.asciiUpper_tag he) hsame⟩

/-- Values with a valid result are accepted. -/
theorem accepts_of_capitals (hcapitals : ∀ f ∈ schema.fields, Text.asciiUpper f.tag = f.tag)
    {result : MessageResult} (h : schema.validate values cache = (.ok result, cache'))
    (hvalid : result.isValid = true) : schema.Accepts (normalizeValues values) := by
  have hnormal := isNormal_normalizeValues values
  obtain ⟨fields, hdefinitions, rfl⟩ := exists_of_validate h
  rw [MessageResult.isValid, List.all_append, Bool.and_eq_true, List.all_eq_true, List.all_eq_true] at hvalid
  obtain ⟨hfields, hunknown⟩ := hvalid
  have hknown := exists_of_unknownFields hcapitals hnormal hunknown
  refine ⟨hknown, fun e he => ?_⟩
  obtain ⟨f, hf, htag⟩ := hknown e he
  rw [← hdefinitions] at hf
  obtain ⟨g, hg, rfl⟩ := List.mem_map.1 hf
  have hget : (normalizeValues values).get? g.definition.tag = some e.2 := by
    rw [TextMap.get?_eq_some_iff, htag]
    exact he
  obtain ⟨spans, hspans⟩ := g.exists_matchSpans hget (hnormal.present e he) (hfields _ (List.mem_map_of_mem hg))
  rw [Text.normalizeLineBreaks_eq_self (hnormal.lineBreaks e he)] at hspans
  exact ⟨g.format, spans, hspans⟩

theorem accepts_of_validate (htags : ∀ f ∈ schema.fields, TextBlock.isTag f.tag.toList = true)
    {result : MessageResult} (h : schema.validate values cache = (.ok result, cache'))
    (hvalid : result.isValid = true) : schema.Accepts (normalizeValues values) :=
  accepts_of_capitals (fun f hf => Text.asciiUpper_of_isTag (htags f hf)) h hvalid

/-! ## The fields of a message -/

theorem mem_entries_iff {e : String × String} :
    e ∈ schema.entries values ↔ (∃ f ∈ schema.fields, f.tag = e.1) ∧ e ∈ values.entries := by
  simp only [entries, List.mem_filterMap, Option.map_eq_some_iff, TextMap.get?_eq_some_iff]
  constructor
  · rintro ⟨f, hf, value, hmem, rfl⟩
    exact ⟨⟨f, hf, rfl⟩, hmem⟩
  · rintro ⟨⟨f, hf, hkey⟩, hmem⟩
    exact ⟨f, hf, e.2, hkey ▸ hmem, by rw [hkey]⟩

/-- Distinct tags of a schema are distinct tags of a message. -/
theorem nodup_entries (hnodup : (schema.fields.map (·.tag)).Nodup) : ((schema.entries values).map (·.1)).Nodup := by
  unfold List.Nodup entries at *
  rw [List.pairwise_map] at hnodup ⊢
  rw [List.pairwise_filterMap]
  refine hnodup.imp fun {f g} hne a ha b hb => ?_
  obtain ⟨_, -, rfl⟩ := Option.map_eq_some_iff.1 ha
  obtain ⟨_, -, rfl⟩ := Option.map_eq_some_iff.1 hb
  exact hne

/-- The values that a schema accepts are the fields of their message. -/
theorem ofList_entries (hnodup : (schema.fields.map (·.tag)).Nodup) (h : schema.Accepts values) :
    TextMap.ofList (schema.entries values) = values :=
  TextMap.ofList_eq_of_forall_mem_iff (nodup_entries hnodup) fun e => by
    rw [mem_entries_iff]
    exact ⟨fun he => he.2, fun he => ⟨h.known e he, he⟩⟩

theorem length_entries (hnodup : (schema.fields.map (·.tag)).Nodup) (h : schema.Accepts values) :
    (schema.entries values).length = values.size := by
  refine List.Perm.length_eq ((List.perm_ext_iff_of_nodup (nodup_entries hnodup).of_map values.nodup_entries).2 ?_)
  intro e
  rw [mem_entries_iff]
  exact ⟨fun he => he.2, fun he => ⟨h.known e he, he⟩⟩

/-- The values of a message have one kind of line break. -/
theorem unified_entries (hnormal : values.IsNormal) :
    TextBlock.unified (schema.entries values) = schema.entries values := by
  refine (List.map_congr_left (g := id) fun e he => ?_).trans (List.map_id _)
  rw [Text.normalizeLineBreaks_eq_self (hnormal.lineBreaks e (mem_entries_iff.1 he).2), id_eq]

theorem readsBack_entries (hnormal : values.IsNormal) (h : schema.Accepts values) :
    ∀ e ∈ schema.entries values, TextBlock.ReadsBack (Text.unifyLineBreaks e.2.toList) := by
  intro e he
  have hmem := (mem_entries_iff.1 he).2
  obtain ⟨format, spans, hspans⟩ := h.matched e hmem
  rw [Text.unifyLineBreaks_eq_self (hnormal.lineBreaks e hmem)]
  exact readsBack_of_matchSpans hspans

/-- The text block of normal values that a schema accepts is read back, if it has no tags but those that can be
read. -/
theorem read_render_of_isTag (hnodup : (schema.fields.map (·.tag)).Nodup) (hnormal : values.IsNormal)
    (h : schema.Accepts values) (htags : ∀ tag ∈ values.keys, TextBlock.isTag tag.toList = true) :
    TextBlock.read (TextBlock.render (schema.entries values)) = .ok values := by
  have hisTag : ∀ e ∈ schema.entries values, TextBlock.isTag e.1.toList = true := fun e he =>
    htags e.1 (List.mem_map_of_mem (mem_entries_iff.1 he).2)
  rw [TextBlock.read, TextBlock.entries_render hisTag (nodup_entries hnodup) (readsBack_entries hnormal h),
    unified_entries hnormal, Except.map, ofList_entries hnodup h]

theorem read_render (hnodup : (schema.fields.map (·.tag)).Nodup)
    (htags : ∀ f ∈ schema.fields, TextBlock.isTag f.tag.toList = true) (hnormal : values.IsNormal)
    (h : schema.Accepts values) : TextBlock.read (TextBlock.render (schema.entries values)) = .ok values := by
  refine read_render_of_isTag hnodup hnormal h fun tag htag => ?_
  obtain ⟨e, he, rfl⟩ := List.mem_map.1 htag
  obtain ⟨f, hf, hkey⟩ := h.known e he
  exact hkey ▸ htags f hf

/-! ## Construction -/

theorem settles_validate (schema : Schema) (values : FieldValues) : Compiling.Settles (schema.validate values) :=
  (Compiling.Settles.mapM (fun _ => (Compiling.settles_compiling _ _).bind fun _ => .pure _) schema.fields).bind
    fun _ => .pure _

/-- A message is built from values with a valid result. -/
theorem exists_of_construct {message : ConstructedMessage}
    (h : schema.construct values cache = (.ok (.constructed message), cache')) :
    ∃ result, schema.validate values cache = (.ok result, cache') ∧ result.isValid = true ∧
      message.text = TextBlock.render (schema.entries (normalizeValues values)) ∧
      message.fieldCount = (schema.entries (normalizeValues values)).length := by
  obtain ⟨result, mid, hresult, h⟩ := Compiling.bind_eq_ok_iff.1 h
  split at h
  · obtain ⟨h, -⟩ := Compiling.pure_eq_ok_iff.1 h
    cases h
  · next hvalid =>
    obtain ⟨h, rfl⟩ := Compiling.pure_eq_ok_iff.1 h
    cases h
    exact ⟨result, hresult, by simpa using hvalid, rfl, rfl⟩

/-- **A message that is built reads back**, whatever formats were compiled before: its text block is read as the
normal form of the values that it was built from, the number of its fields is the number of these, and they have the
result of the values, which is the same again when they are validated after the message. -/
theorem read_construct (hnodup : (schema.fields.map (·.tag)).Nodup)
    (htags : ∀ f ∈ schema.fields, TextBlock.isTag f.tag.toList = true) {message : ConstructedMessage}
    (h : schema.construct values cache = (.ok (.constructed message), cache')) :
    ∃ fields, TextBlock.read message.text = .ok fields ∧ fields = normalizeValues values ∧
      message.fieldCount = fields.size ∧ (∀ formats, schema.validate fields formats = schema.validate values formats) ∧
      ∃ result, schema.validate values cache = (.ok result, cache') ∧
        schema.validate fields cache' = (.ok result, cache') := by
  obtain ⟨result, hresult, hvalid, htext, hcount⟩ := exists_of_construct h
  have haccepts := accepts_of_validate htags hresult hvalid
  refine ⟨normalizeValues values, ?_, rfl, ?_, fun formats => ?_, result, hresult, ?_⟩
  · rw [htext]
    exact read_render hnodup htags (isNormal_normalizeValues values) haccepts
  · rw [hcount, length_entries hnodup haccepts]
  · rw [validate_normalizeValues]
  · rw [validate_normalizeValues]
    exact (settles_validate schema values cache cache' result hresult).2 cache' (.refl cache')

/-- A message of a reference and a text of several lines. -/
def freeFormat : Schema where
  messageType := "799"
  name := "Free format message"
  version := "1"
  fields := [
    ⟨"20", "Reference", "16x", true, 1, none, 1, []⟩,
    ⟨"79", "Narrative", "35*50x", true, 2, none, 1, []⟩]

/-- The lines of a text are lines of the block, and read back. -/
theorem read_construct_freeFormat :
    ∃ message formats, freeFormat.construct (.ofList [("20 ", "LC1"), ("79", "FIRST\r\nSECOND")]) {} =
        (.ok (.constructed message), formats) ∧
      message.text = "\x7b4:\r\n:20:LC1\r\n:79:FIRST\r\nSECOND\r\n-\x7d" ∧
      TextBlock.read message.text = .ok (normalizeValues (.ofList [("20 ", "LC1"), ("79", "FIRST\r\nSECOND")])) := by
  let values : FieldValues := .ofList [("20 ", "LC1"), ("79", "FIRST\r\nSECOND")]
  let message : ConstructedMessage := ⟨"799", "\x7b4:\r\n:20:LC1\r\n:79:FIRST\r\nSECOND\r\n-\x7d", 2, 2⟩
  have hbuilt : (freeFormat.construct values {}).1 = .ok (.constructed message) := by decide +kernel
  have hconstruct : freeFormat.construct values {} = (.ok (.constructed message), (freeFormat.construct values {}).2) :=
    Prod.ext hbuilt rfl
  have htags : ∀ f ∈ freeFormat.fields, TextBlock.isTag f.tag.toList = true := by decide
  obtain ⟨fields, hread, hfields, -⟩ := read_construct (by decide) htags hconstruct
  rw [hfields] at hread
  exact ⟨message, _, hconstruct, rfl, hread⟩

end Schema

end DocumentaryCredit

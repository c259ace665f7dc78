/-
The schemas of a rule book that has been loaded. Each stands under the code of its message type. Its tags are distinct
and in capitals, have no white space around them and are not empty, and its specifications are formats
(`RuleBook.WellFormed`). Nothing else is known of a tag: whatever else a table has in the column of the tags is the tag
of a field.
-/
import DocumentaryCredit.Proofs.Message.Validation
import DocumentaryCredit.Proofs.Standards.Assembly

namespace DocumentaryCredit

/-- The schemas of a rule book stand under their message types, and messages can be validated against them. -/
structure RuleBook.WellFormed (book : RuleBook) : Prop where
  messageType : ∀ code schema, book.schemas.get? code = some schema → schema.messageType = code
  schemas : ∀ code schema, book.schemas.get? code = some schema → schema.WellFormed
  tags : ∀ code schema, book.schemas.get? code = some schema → ∀ f ∈ schema.fields, f.tag ≠ ""

section

variable {book : RuleBook} {tree : FileTree} {directory : String} {t : Tables} {code : String} {schema : Schema}

/-- Each schema of a rule book is made of the row of its message type. -/
theorem RuleBook.AssembledFrom.exists_makes (h : book.AssembledFrom t) (hget : book.schemas.get? code = some schema) :
    ∃ m ∈ t.messages, m.messageType = code ∧ t.Makes m schema := by
  obtain ⟨m, hm, rfl⟩ := (h.messageTypes code).1 (TextMap.mem_keys_iff.2 ⟨schema, hget⟩)
  obtain ⟨made, hmade, hmakes⟩ := h.schemas m hm
  rw [hget] at hmade
  cases hmade
  exact ⟨m, hm, rfl, hmakes⟩

/-- A field is what its row has it, but for the rules. -/
theorem Tables.Makes.exists_row {m : MessageRow} (h : t.Makes m schema) {f : FieldDefinition} (hf : f ∈ schema.fields) :
    ∃ row ∈ t.fields, row.messageType = m.messageType ∧ row.definition = f.withoutRules := by
  have hmem : f.withoutRules ∈ schema.fields.map (·.withoutRules) := List.mem_map_of_mem hf
  obtain ⟨row, hrow, hdefinition⟩ := List.mem_map.1 (h.fields.mem_iff.1 hmem)
  obtain ⟨hrow, htype⟩ := List.mem_filter.1 hrow
  exact ⟨row, hrow, of_decide_eq_true htype, hdefinition⟩

/-- The row of a field is the only one of its message type and tag. -/
theorem Tables.Makes.definition_eq {m : MessageRow} (h : t.Makes m schema) {f : FieldDefinition}
    (hf : f ∈ schema.fields) {row : FieldRow} (hrow : row ∈ t.fields) (htype : row.messageType = m.messageType)
    (htag : row.definition.tag = f.tag) : row.definition = f.withoutRules := by
  have hmem : row.definition ∈ (t.fields.filter (·.messageType = m.messageType)).map (·.definition) :=
    List.mem_map.2 ⟨row, List.mem_filter.2 ⟨hrow, decide_eq_true htype⟩, rfl⟩
  obtain ⟨g, hg, hdefinition⟩ := List.mem_map.1 (h.fields.mem_iff.2 hmem)
  have hgtag : g.tag = f.tag := (congrArg (·.tag) hdefinition).trans htag
  rw [← hdefinition, List.inj_on_of_nodup_map h.nodup hg hf hgtag]

theorem RuleBook.ReadFrom.tags (h : book.ReadFrom tree directory t) :
    ∀ row ∈ t.fields, Text.trim row.definition.tag = row.definition.tag ∧ row.definition.tag ≠ "" := by
  obtain ⟨_, _, _, hfields⟩ := h.fields
  exact forall_of_readTable (fun _ _ => FieldRow.tag_of_read) hfields

end

/-- A rule book that has been loaded is well-formed. -/
theorem RuleBook.wellFormed_of_load {tree : FileTree} {directory : String} {cache cache' : FormatCache}
    {book : RuleBook} {summary : RuleBookSummary} (hcache : cache.Reachable)
    (h : RuleBook.load tree directory cache = (.ok (book, summary), cache')) : book.WellFormed := by
  obtain ⟨t, hloaded⟩ := exists_loaded hcache h
  have hread := hloaded.toReadFrom
  have hassembled := hloaded.assembledFrom
  constructor
  · intro code schema hget
    obtain ⟨m, -, rfl, hmakes⟩ := hassembled.exists_makes hget
    exact hmakes.messageType
  · intro code schema hget
    obtain ⟨m, -, -, hmakes⟩ := hassembled.exists_makes hget
    refine ⟨hmakes.nodup, fun f hf => ?_, hmakes.formats⟩
    obtain ⟨row, hrow, -, hdefinition⟩ := hmakes.exists_row hf
    have htrim : Text.trim f.tag = f.tag := by simpa [hdefinition] using (hread.tags row hrow).1
    rw [htrim, hmakes.capitals f hf]
  · intro code schema hget f hf
    obtain ⟨m, -, -, hmakes⟩ := hassembled.exists_makes hget
    obtain ⟨row, hrow, -, hdefinition⟩ := hmakes.exists_row hf
    simpa [hdefinition] using (hread.tags row hrow).2

end DocumentaryCredit

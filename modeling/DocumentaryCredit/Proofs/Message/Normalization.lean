/-
Normal values: tags trimmed and in capitals, one kind of line break, and no blank values. Values are normal once they
are normalised, and stay as they are when they are normalised again, so that a message and its normal form are
validated alike.
-/
import DocumentaryCredit.Message.Validation
import DocumentaryCredit.Proofs.Text
import DocumentaryCredit.Proofs.TextMap

namespace DocumentaryCredit

/-- The values are in the form that normalisation gives them. -/
structure FieldValues.IsNormal (values : FieldValues) : Prop where
  tags : ∀ e ∈ values.entries, Text.asciiUpper (Text.trim e.1) = e.1
  lineBreaks : ∀ e ∈ values.entries, '\r' ∉ e.2.toList
  present : ∀ e ∈ values.entries, Text.isBlank e.2 = false

theorem isNormal_normalizeValues (values : FieldValues) : (normalizeValues values).IsNormal := by
  have horigin : ∀ e ∈ (normalizeValues values).entries, ∃ tag value, Text.isBlank value = false ∧
      e = (Text.asciiUpper (Text.trim tag), Text.normalizeLineBreaks value) := by
    intro e he
    obtain ⟨⟨tag, value⟩, hmem, rfl⟩ := List.mem_map.1 (TextMap.mem_of_mem_ofList he)
    exact ⟨tag, value, by simpa using (List.mem_filter.1 hmem).2, rfl⟩
  refine ⟨fun e he => ?_, fun e he => ?_, fun e he => ?_⟩
  all_goals obtain ⟨tag, value, hpresent, rfl⟩ := horigin e he
  · rw [Text.trim_asciiUpper_trim, Text.asciiUpper_asciiUpper]
  · exact Text.not_mem_normalizeLineBreaks value
  · rw [Text.isBlank_normalizeLineBreaks, hpresent]

namespace FieldValues.IsNormal

variable {values : FieldValues} {tag value : String}

/-- The tag of a normal value is in capitals. -/
theorem asciiUpper_tag (h : values.IsNormal) {e : String × String}
    (he : e ∈ values.entries) : Text.asciiUpper e.1 = e.1 := by
  rw [← h.tags e he, Text.asciiUpper_asciiUpper]

theorem not_isBlank (h : values.IsNormal) (hget : values.get? tag = some value) :
    Text.isBlank value = false :=
  h.present (tag, value) (TextMap.get?_eq_some_iff.1 hget)

theorem filter_get? (h : values.IsNormal) (tag : String) :
    (values.get? tag).filter (!Text.isBlank ·) = values.get? tag := by
  cases hget : values.get? tag with
  | none => rfl
  | some value => simp [h.not_isBlank hget]

theorem isPresent_iff (h : values.IsNormal) : values.isPresent tag = true ↔ tag ∈ values.keys := by
  rw [TextMap.mem_keys_iff, isPresent]
  cases hget : values.get? tag with
  | none => simp
  | some value => simp [h.not_isBlank hget]

theorem asciiUpper_key (h : values.IsNormal) (hmem : tag ∈ values.keys) :
    Text.asciiUpper tag = tag := by
  obtain ⟨e, he, rfl⟩ := List.mem_map.1 hmem
  exact h.asciiUpper_tag he

end FieldValues.IsNormal

theorem FieldValues.IsNormal.normalizeValues_eq {values : FieldValues} (h : values.IsNormal) :
    normalizeValues values = values := by
  have hfilter : values.entries.filter (fun e => !Text.isBlank e.2) = values.entries :=
    List.filter_eq_self.2 fun e he => by simp [h.present e he]
  have hmap : values.entries.map (fun e => (Text.asciiUpper (Text.trim e.1), Text.normalizeLineBreaks e.2)) =
      values.entries := by
    refine (List.map_congr_left (g := id) fun e he => ?_).trans (List.map_id _)
    rw [h.tags e he, Text.normalizeLineBreaks_eq_self (h.lineBreaks e he), id_eq]
  rw [normalizeValues, hfilter, hmap, TextMap.ofList_entries]

theorem normalizeValues_normalizeValues (values : FieldValues) :
    normalizeValues (normalizeValues values) = normalizeValues values :=
  (isNormal_normalizeValues values).normalizeValues_eq

/-- The normal form of values has the results of the values. -/
theorem Schema.validate_normalizeValues (schema : Schema) (values : FieldValues) :
    schema.validate (normalizeValues values) = schema.validate values := by
  unfold validate
  rw [normalizeValues_normalizeValues]

end DocumentaryCredit

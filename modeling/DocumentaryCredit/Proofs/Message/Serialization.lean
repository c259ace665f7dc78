/-
Text blocks of any values, valid or not. A block is written for the fields that its schema has, and all its line breaks
are those of the wire. It carries the values exactly if none of them has a line that could be taken for the start of a
field: what is read never has such a line, so that a value with one is lost in one way or another, as a field more, as a
field twice or as a line that is refused.
-/
import DocumentaryCredit.Proofs.Message.Construction
import DocumentaryCredit.Proofs.Message.Grammar

namespace DocumentaryCredit

/-! ## Line breaks of the wire -/

namespace Text

/-- Line feeds stand right behind carriage returns and nowhere else, and carriage returns right before line feeds. -/
structure HasWireBreaks (cs : List Char) : Prop where
  first : cs.head? ≠ some '\n'
  paired : ∀ i : Nat, cs[i]? = some '\r' ↔ cs[i + 1]? = some '\n'

theorem HasWireBreaks.cons {c : Char} {cs : List Char} (h : HasWireBreaks cs) (hfeed : c ≠ '\n')
    (hreturn : c ≠ '\r') : HasWireBreaks (c :: cs) := by
  refine ⟨by simpa using hfeed, fun i => ?_⟩
  cases i with
  | zero => simpa [hreturn, List.head?_eq_getElem?] using h.first
  | succ i => simpa using h.paired i

theorem HasWireBreaks.lineBreak {cs : List Char} (h : HasWireBreaks cs) : HasWireBreaks ('\r' :: '\n' :: cs) := by
  refine ⟨by simp, fun i => ?_⟩
  match i with
  | 0 => simp
  | 1 => simpa [List.head?_eq_getElem?] using h.first
  | i + 2 => simpa using h.paired i

theorem hasWireBreaks_wireChars {cs : List Char} (h : '\r' ∉ cs) : HasWireBreaks (wireChars cs) := by
  induction cs with
  | nil => exact ⟨by simp [wireChars], by simp [wireChars]⟩
  | cons c cs ih =>
    obtain ⟨hreturn, hcs⟩ : '\r' ≠ c ∧ '\r' ∉ cs := by simpa using h
    rw [wireChars_cons]
    split
    · exact (ih hcs).lineBreak
    · next hfeed => exact (ih hcs).cons hfeed hreturn.symm

end Text

namespace Schema

variable {schema : Schema} {values : FieldValues}

/-- The text is read, and as the values of the tags of the schema, with one kind of line break, and no others. -/
def Carries (schema : Schema) (values : FieldValues) (text : String) : Prop :=
  ∃ fields, TextBlock.read text = .ok fields ∧ ∀ tag, fields.get? tag =
    if tag ∈ schema.fields.map (·.tag) then (values.get? tag).map Text.normalizeLineBreaks else none

/-- The map of the fields that are written for a message. -/
theorem get?_ofList_unified (hnodup : (schema.fields.map (·.tag)).Nodup) (tag : String) :
    (TextMap.ofList (TextBlock.unified (schema.entries values))).get? tag =
      if tag ∈ schema.fields.map (·.tag) then (values.get? tag).map Text.normalizeLineBreaks else none := by
  have hunified : ((TextBlock.unified (schema.entries values)).map (·.1)).Nodup := by
    rw [TextBlock.unified, List.map_map]
    exact nodup_entries hnodup
  have hmem : ∀ value, (tag, value) ∈ TextBlock.unified (schema.entries values) ↔
      tag ∈ schema.fields.map (·.tag) ∧ ∃ raw, values.get? tag = some raw ∧ Text.normalizeLineBreaks raw = value := by
    intro value
    simp only [TextBlock.unified, List.mem_map, mem_entries_iff, TextMap.get?_eq_some_iff]
    constructor
    · rintro ⟨⟨key, raw⟩, ⟨hfield, hraw⟩, heq⟩
      cases heq
      exact ⟨hfield, raw, hraw, rfl⟩
    · rintro ⟨hfield, raw, hraw, rfl⟩
      exact ⟨(tag, raw), ⟨hfield, hraw⟩, rfl⟩
  ext value
  rw [TextMap.get?_eq_some_iff, TextMap.mem_ofList_iff hunified, hmem]
  split
  · next hfield => simp [hfield]
  · next hfield => simp [hfield]

/-- Values that read back are carried. -/
theorem carries_serialize (hnodup : (schema.fields.map (·.tag)).Nodup)
    (htags : ∀ f ∈ schema.fields, TextBlock.isTag f.tag.toList = true)
    (hback : ∀ f ∈ schema.fields, ∀ value, values.get? f.tag = some value →
      TextBlock.ReadsBack (Text.normalizeLineBreaks value).toList) :
    schema.Carries values (schema.serialize values) := by
  have hisTag : ∀ e ∈ schema.entries values, TextBlock.isTag e.1.toList = true := by
    intro e he
    obtain ⟨f, hf, hkey⟩ := (mem_entries_iff.1 he).1
    exact hkey ▸ htags f hf
  have hentries : ∀ e ∈ schema.entries values, TextBlock.ReadsBack (Text.unifyLineBreaks e.2.toList) := by
    intro e he
    obtain ⟨⟨f, hf, hkey⟩, hmem⟩ := mem_entries_iff.1 he
    have hvalue := hback f hf e.2 (TextMap.get?_eq_some_iff.2 (hkey ▸ hmem))
    simpa [Text.normalizeLineBreaks] using hvalue
  refine ⟨TextMap.ofList (TextBlock.unified (schema.entries values)), ?_, get?_ofList_unified hnodup⟩
  rw [TextBlock.read, serialize, TextBlock.entries_render hisTag (nodup_entries hnodup) hentries]
  rfl

/-- Values that are carried by some text read back. -/
theorem readsBack_of_carries {text : String} (h : schema.Carries values text) :
    ∀ f ∈ schema.fields, ∀ value, values.get? f.tag = some value →
      TextBlock.ReadsBack (Text.normalizeLineBreaks value).toList := by
  obtain ⟨fields, hread, hfields⟩ := h
  intro f hf value hvalue
  have htag : f.tag ∈ schema.fields.map (·.tag) := List.mem_map_of_mem hf
  have hget : fields.get? f.tag = some (Text.normalizeLineBreaks value) := by
    rw [hfields, if_pos htag, hvalue, Option.map_some]
  obtain ⟨entries, hblock, rfl⟩ := TextBlock.exists_of_read hread
  have hmem : (f.tag, Text.normalizeLineBreaks value) ∈ entries :=
    TextMap.mem_of_mem_ofList (TextMap.get?_eq_some_iff.1 hget)
  exact hblock.readsBack (f.tag, Text.normalizeLineBreaks value) hmem

/-- **What a block carries.** The block of any values, valid or not, has no line breaks but those of the wire, and it is
read as the values of the tags of the schema exactly if none of these has a line, other than its first, that starts with
a colon. -/
theorem carries_serialize_iff (hnodup : (schema.fields.map (·.tag)).Nodup)
    (htags : ∀ f ∈ schema.fields, TextBlock.isTag f.tag.toList = true) (values : FieldValues) :
    Text.HasWireBreaks (schema.serialize values).toList ∧
      (schema.Carries values (schema.serialize values) ↔
        ∀ f ∈ schema.fields, ∀ value, values.get? f.tag = some value →
          TextBlock.ReadsBack (Text.normalizeLineBreaks value).toList) := by
  have honeLine : ∀ e ∈ schema.entries values, TextBlock.OneLine e.1.toList := by
    intro e he
    obtain ⟨f, hf, hkey⟩ := (mem_entries_iff.1 he).1
    exact hkey ▸ TextBlock.oneLine_of_isTag (htags f hf)
  refine ⟨?_, readsBack_of_carries, carries_serialize hnodup htags⟩
  rw [serialize, TextBlock.toList_render honeLine]
  exact Text.hasWireBreaks_wireChars (TextBlock.not_mem_blockChars honeLine)

/-- An empty value, and line breaks of each kind before, behind and within a value that ends as a block does, are
carried; a line that starts with a colon is not, though no field has its tag. -/
theorem carries_serialize_iff_freeFormat :
    freeFormat.Carries (.ofList [("20", ""), ("79", "\n\r\rA\r\n-\x7d")])
        "\x7b4:\r\n:20:\r\n:79:\r\n\r\n\r\nA\r\n-\x7d\r\n-\x7d" ∧
      ¬ freeFormat.Carries (.ofList [("79", "A\r:99:B")]) "\x7b4:\r\n:79:A\r\n:99:B\r\n-\x7d" := by
  have hnodup : (freeFormat.fields.map (·.tag)).Nodup := by decide
  have htags : ∀ f ∈ freeFormat.fields, TextBlock.isTag f.tag.toList = true := by decide
  have hserialize : freeFormat.serialize (.ofList [("20", ""), ("79", "\n\r\rA\r\n-\x7d")]) =
      "\x7b4:\r\n:20:\r\n:79:\r\n\r\n\r\nA\r\n-\x7d\r\n-\x7d" := by decide +kernel
  have hserialize' : freeFormat.serialize (.ofList [("79", "A\r:99:B")]) =
      "\x7b4:\r\n:79:A\r\n:99:B\r\n-\x7d" := by decide +kernel
  rw [← hserialize, ← hserialize', (carries_serialize_iff hnodup htags _).2, (carries_serialize_iff hnodup htags _).2]
  constructor
  · intro f hf value hvalue
    have hmem := TextMap.mem_of_mem_ofList (TextMap.get?_eq_some_iff.1 hvalue)
    simp only [List.mem_cons, Prod.mk.injEq, List.not_mem_nil, or_false] at hmem
    rcases hmem with ⟨-, rfl⟩ | ⟨-, rfl⟩ <;> decide +kernel
  · intro hback
    have hline := hback ⟨"79", "Narrative", "35*50x", true, 2, none, 1, []⟩ (by decide) "A\r:99:B" (by decide)
    exact absurd hline (by decide +kernel)

end Schema

end DocumentaryCredit

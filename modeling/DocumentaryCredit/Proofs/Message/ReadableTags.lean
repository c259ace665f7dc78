/-
Messages are written with the tags that the tables have and read with tags of two digits and a capital letter or
nothing. A table may have other tags: they are trimmed and in capitals, and nothing more is asked of them when a rule
book is loaded. Main statement: a message that is built reads back exactly if all its tags can be read; if one of them
cannot, and none has a colon or a line break, the text is refused at the line of such a tag (`TextBlock.ReadsAgain`).

A rule book with such a tag can be loaded, and builds messages that nobody can read (`WordTagBook`).
-/
import DocumentaryCredit.Proofs.Message.Availability

namespace DocumentaryCredit

/-- What a text is read as that was written for some values. -/
structure TextBlock.ReadsAgain (values : FieldValues) (text : String) : Prop where
  restored : TextBlock.read text = .ok values ↔ ∀ tag ∈ values.keys, TextBlock.isTag tag.toList = true
  tags : ∀ fields, TextBlock.read text = .ok fields → ∀ tag ∈ fields.keys, TextBlock.isTag tag.toList = true
  /-- A tag that cannot be read is reported, if none has what would end it early. -/
  refused : (∀ tag ∈ values.keys, TextBlock.OneLine tag.toList ∧ ':' ∉ tag.toList) →
    (∃ tag ∈ values.keys, TextBlock.isTag tag.toList = false) → ∃ line, ∃ tag ∈ values.keys, ∃ value,
      TextBlock.isTag tag.toList = false ∧
        TextBlock.read text = .error (.malformedLine line (":" ++ tag ++ ":" ++ value))

theorem TextBlock.isTag_of_read {text : String} {fields : FieldValues} (h : TextBlock.read text = .ok fields) :
    ∀ tag ∈ fields.keys, TextBlock.isTag tag.toList = true := by
  obtain ⟨entries, hentries, rfl⟩ := Except.map_eq_ok_iff.1 h
  intro tag htag
  obtain ⟨e, he, rfl⟩ := List.mem_map.1 htag
  exact TextBlock.isTag_of_entries hentries e (TextMap.mem_of_mem_ofList he)

namespace Schema

variable {schema : Schema} {values : FieldValues}

theorem mem_keys_of_mem_entries {e : String × String} (he : e ∈ schema.entries values) : e.1 ∈ values.keys :=
  List.mem_map_of_mem (mem_entries_iff.1 he).2

/-- Every value that a schema accepts is written. -/
theorem exists_entry_of_mem_keys (h : schema.Accepts values) {tag : String} (htag : tag ∈ values.keys) :
    ∃ e ∈ schema.entries values, e.1 = tag := by
  obtain ⟨e, he, rfl⟩ := List.mem_map.1 htag
  exact ⟨e, mem_entries_iff.2 ⟨h.known e he, he⟩, rfl⟩

/-- A block with a tag that cannot be read is refused at the line of such a tag. -/
theorem read_render_malformed (hnodup : (schema.fields.map (·.tag)).Nodup) (hnormal : values.IsNormal)
    (h : schema.Accepts values) (hplain : ∀ tag ∈ values.keys, TextBlock.OneLine tag.toList ∧ ':' ∉ tag.toList)
    (hunread : ∃ tag ∈ values.keys, TextBlock.isTag tag.toList = false) : ∃ line, ∃ tag ∈ values.keys, ∃ value,
      TextBlock.isTag tag.toList = false ∧ TextBlock.read (TextBlock.render (schema.entries values)) =
        .error (.malformedLine line (":" ++ tag ++ ":" ++ value)) := by
  obtain ⟨tag, htag, hno⟩ := hunread
  obtain ⟨e, he, rfl⟩ := exists_entry_of_mem_keys h htag
  -- the first entry whose tag cannot be read
  obtain ⟨entry, hfirst⟩ : ∃ entry,
      (schema.entries values).find? (fun e => !TextBlock.isTag e.1.toList) = some entry := by
    rw [← Option.isSome_iff_exists, List.find?_isSome]
    exact ⟨e, he, by simp [hno]⟩
  obtain ⟨hentry, before, after, hsplit, hbefore⟩ := List.find?_eq_some_iff_append.1 hfirst
  have hmem : ∀ e ∈ before ++ entry :: after, e ∈ schema.entries values := fun e he => hsplit ▸ he
  have hdistinct : ((schema.entries values).map (·.1)).Nodup := nodup_entries hnodup
  rw [hsplit, List.map_append] at hdistinct
  have honeLine : ∀ e ∈ before ++ entry :: after, TextBlock.OneLine e.1.toList := fun e he =>
    (hplain e.1 (mem_keys_of_mem_entries (hmem e he))).1
  have htags : ∀ e ∈ before, TextBlock.isTag e.1.toList = true := fun e he => by simpa using hbefore e he
  have hback : ∀ e ∈ before, TextBlock.ReadsBack (Text.unifyLineBreaks e.2.toList) := fun e he =>
    readsBack_entries hnormal h e (hmem e (List.mem_append_left _ he))
  have hkey : entry.1 ∈ values.keys := mem_keys_of_mem_entries (hmem entry (by simp))
  have hentryTag : TextBlock.isTag entry.1.toList = false := by simpa using hentry
  obtain ⟨line, value, hread⟩ := TextBlock.entries_render_malformed honeLine htags (List.nodup_append.1 hdistinct).1
    hback hentryTag (hplain entry.1 hkey).2
  refine ⟨line, entry.1, hkey, value, hentryTag, ?_⟩
  rw [TextBlock.read, hsplit, hread]
  rfl

theorem readsAgain_render (hnodup : (schema.fields.map (·.tag)).Nodup) (hnormal : values.IsNormal)
    (h : schema.Accepts values) : TextBlock.ReadsAgain values (TextBlock.render (schema.entries values)) where
  restored := ⟨fun hread => TextBlock.isTag_of_read hread, read_render_of_isTag hnodup hnormal h⟩
  tags _ hread := TextBlock.isTag_of_read hread
  refused := read_render_malformed hnodup hnormal h

end Schema

/-! ## Messages of a validator -/

namespace Validator

variable {v : Validator} {formats formats' : FormatCache} {messageType : String} {schema : Schema}
  {values : FieldValues}

theorem construct_of_some (h : v.book.schemas.get? (normalizeMessageType messageType) = some schema) :
    v.construct messageType values = compilingFields (schema.construct values) := by
  rw [Validator.construct, schema_of_some h, pure_bind]

theorem compilingFields_eq_ok_iff {α : Type} {step : Compiling FieldFormatError α} {a : α} :
    compilingFields step formats = (.ok a, formats') ↔ step formats = (.ok a, formats') := by
  unfold compilingFields
  rcases step formats with ⟨_ | b, after⟩ <;> constructor <;> intro h <;> cases h <;> rfl

/-- A message is built with a schema of the rule book. -/
theorem exists_of_construct {outcome : Construction}
    (h : v.construct messageType values formats = (.ok outcome, formats')) : ∃ schema,
      v.book.schemas.get? (normalizeMessageType messageType) = some schema ∧
        schema.construct values formats = (.ok outcome, formats') := by
  cases hschema : v.book.schemas.get? (normalizeMessageType messageType) with
  | none =>
    have hfail : (v.construct messageType values formats).1 =
        .error (.unknownMessageType (normalizeMessageType messageType)) := bind_of_lacks hschema _
    rw [h] at hfail
    cases hfail
  | some schema =>
    rw [construct_of_some hschema, compilingFields_eq_ok_iff] at h
    exact ⟨schema, rfl, h⟩

end Validator

/-- The values of a message that is built are accepted by their schema. -/
theorem Schema.WellFormed.accepts_of_construct {schema : Schema} (hschema : schema.WellFormed) {values : FieldValues}
    {cache cache' : FormatCache} {message : ConstructedMessage}
    (h : schema.construct values cache = (.ok (.constructed message), cache')) :
    schema.Accepts (normalizeValues values) ∧
      message.text = TextBlock.render (schema.entries (normalizeValues values)) := by
  obtain ⟨result, hresult, hvalid, htext, -⟩ := Schema.exists_of_construct h
  have hcapitals : ∀ f ∈ schema.fields, Text.asciiUpper f.tag = f.tag := by
    intro f hf
    rw [← hschema.tags f hf, Text.asciiUpper_asciiUpper]
  exact ⟨Schema.accepts_of_capitals hcapitals hresult hvalid, htext⟩

/-- A message is built with a schema of the rule book, and written as its values. -/
theorem RuleBook.WellFormed.exists_of_construct {book : RuleBook} (hbook : book.WellFormed) {messageType : String}
    {values : FieldValues} {formats formats' : FormatCache} {message : ConstructedMessage}
    (h : (Validator.mk book).construct messageType values formats = (.ok (.constructed message), formats')) :
    ∃ schema, book.schemas.get? (normalizeMessageType messageType) = some schema ∧
      schema.construct values formats = (.ok (.constructed message), formats') ∧
      schema.Accepts (normalizeValues values) ∧ TextBlock.ReadsAgain (normalizeValues values) message.text := by
  obtain ⟨schema, hget, hconstruct⟩ := Validator.exists_of_construct h
  have hschema := hbook.schemas _ _ hget
  obtain ⟨haccepts, htext⟩ := hschema.accepts_of_construct hconstruct
  refine ⟨schema, hget, hconstruct, haccepts, ?_⟩
  rw [htext]
  exact Schema.readsAgain_render hschema.nodup (isNormal_normalizeValues values) haccepts

/-- **A message of a loaded rule book reads back exactly if all its tags can be read.** Of the tags of the rule book no
more is known than that they are trimmed, in capitals and not empty. A validator, with whatever formats were compiled
before, reads the message as its values under the same condition, and then finds nothing wrong with them. -/
theorem RuleBook.readsAgain_of_load {tree : FileTree} {directory : String} {cache cache' : FormatCache}
    {book : RuleBook} {summary : RuleBookSummary} (hcache : cache.Reachable)
    (hload : RuleBook.load tree directory cache = (.ok (book, summary), cache')) {formats formats' : FormatCache}
    (hformats : formats.Reachable) {messageType : String} {values : FieldValues} {message : ConstructedMessage}
    (h : (Validator.mk book).construct messageType values formats = (.ok (.constructed message), formats')) :
    (∃ schema, book.schemas.get? (normalizeMessageType messageType) = some schema ∧
      (∀ f ∈ schema.fields, f.tag ≠ "" ∧ Text.asciiUpper (Text.trim f.tag) = f.tag) ∧
      ∀ tag ∈ (normalizeValues values).keys, ∃ f ∈ schema.fields, f.tag = tag) ∧
    TextBlock.ReadsAgain (normalizeValues values) message.text ∧
    ∀ later : FormatCache, later.Reachable →
      ((∃ validation, ((Validator.mk book).parse messageType message.text later).1 =
          .ok ⟨normalizeValues values, validation⟩ ∧ validation.isValid = true) ↔
        ∀ tag ∈ (normalizeValues values).keys, TextBlock.isTag tag.toList = true) := by
  have hbook := wellFormed_of_load hcache hload
  obtain ⟨schema, hget, hconstruct, haccepts, hagain⟩ := hbook.exists_of_construct h
  have hschema := hbook.schemas _ _ hget
  have hknown : ∀ tag ∈ (normalizeValues values).keys, ∃ f ∈ schema.fields, f.tag = tag := by
    intro tag htag
    obtain ⟨e, he, rfl⟩ := List.mem_map.1 htag
    exact haccepts.known e he
  refine ⟨⟨schema, hget, fun f hf => ⟨hbook.tags _ _ hget f hf, hschema.tags f hf⟩, hknown⟩, hagain,
    fun later hlater => ?_⟩
  have hdependable : (Validator.mk book).Dependable later := Validator.dependable_of_wellFormed hbook hlater
  obtain ⟨fields, hfields, hanswers⟩ := hdependable.answers messageType schema hget
  rw [← hagain.restored]
  constructor
  · intro ⟨validation, hparse, _⟩
    exact ((hanswers.parse_eq_ok_iff hget).1 hparse).1
  · intro hread
    refine ⟨schema.resultOf fields (normalizeValues (normalizeValues values)),
      (hanswers.parse_eq_ok_iff hget).2 ⟨hread, rfl⟩, ?_⟩
    -- the values are valid, since the message was built from them
    obtain ⟨result, hresult, hvalid, -⟩ := Schema.exists_of_construct hconstruct
    obtain ⟨after, hvalidate⟩ := Schema.exists_validate_eq hfields hschema hformats values
    rw [hresult] at hvalidate
    cases hvalidate
    rwa [normalizeValues_normalizeValues]

/-! ## A rule book with a word for a tag -/

namespace WordTagBook

def fields : String := "Message Type,Sequence,Tag,Field Name,Format,Mandatory
700,1,20,Number,16x,Y
700,2,REF,Reference,16x,N
"

def manifestText : String := "[manifest]
schema = \"lc-checker.standards-manifest\"
schema_version = 1
[pins]
swift_mt = \"SR2023\"
ucp = \"UCP600\"
[[files]]
path = \"fields.csv\"
sha256 = \"b3f23dbeb0bf552c13314d566f07d6b9bfe8060a7313649b0e73664bcba6ae27\"
kind = \"csv\"
role = \"fields\"
[[files]]
path = \"messages.csv\"
sha256 = \"5d31ace6d327884af67e86bb83b2f71aa4d85d449d0008920f7239bc75d6506a\"
kind = \"csv\"
role = \"messages\"
[[files]]
path = \"rules.csv\"
sha256 = \"ff969a6b7114b576b783276f73440d9f9dc2f55efe33693338ca1378a8a3b78b\"
kind = \"csv\"
role = \"rules\"
"

/-- What the text of the manifest says. -/
def manifest : Manifest where
  schema := manifestSchema
  schemaVersion := 1
  pins := ⟨"SR2023", "UCP600"⟩
  files := [
    ⟨"fields.csv", "b3f23dbeb0bf552c13314d566f07d6b9bfe8060a7313649b0e73664bcba6ae27", "csv", "fields", none⟩,
    ⟨"messages.csv", "5d31ace6d327884af67e86bb83b2f71aa4d85d449d0008920f7239bc75d6506a", "csv", "messages", none⟩,
    ⟨"rules.csv", "ff969a6b7114b576b783276f73440d9f9dc2f55efe33693338ca1378a8a3b78b", "csv", "rules", none⟩]

/-- The directory; its other tables are those of the small rule book. -/
def tree : FileTree := SmallBook.treeOf manifestText fields SmallBook.messages SmallBook.rules

set_option maxRecDepth 10000 in
theorem read?_manifestText : Manifest.read? manifestText = some manifest := by
  rw [Manifest.read?, Toml.read?, show manifestText.toList = _ from String.toList_ofList]
  with_unfolding_all rfl

/-- The rows of the tables. -/
def tables : Tables where
  messages := [⟨"700", "Issue", ""⟩]
  fields := [⟨"700", ⟨"20", "Number", "16x", true, 1, none, 1, []⟩⟩,
    ⟨"700", ⟨"REF", "Reference", "16x", false, 2, none, 1, []⟩⟩]
  rules := [⟨"700", "20", .length 0 16⟩]

/-- The one schema of the rule book. -/
def schema : Schema where
  messageType := "700"
  name := "Issue"
  version := ""
  fields := [⟨"20", "Number", "16x", true, 1, none, 1, [.length 0 16]⟩,
    ⟨"REF", "Reference", "16x", false, 2, none, 1, []⟩]

theorem schema_eq : tables.messages.map tables.schema = [schema] := by cbv

theorem exists_load : ∃ book summary cache, RuleBook.load tree "s" {} = (.ok (book, summary), cache) ∧
    book.schemas.get? "700" = some schema := by
  have hfields : readFields "s/fields.csv" (Text.toBytes fields) = .ok tables.fields := by decide +kernel
  have hrules : readRules "s/rules.csv" (Text.toBytes SmallBook.rules) = .ok tables.rules := by decide +kernel
  have hschemas : ∀ schema ∈ tables.messages.map tables.schema, (schema.check {}).1 = .ok () := by
    rw [schema_eq]
    decide +kernel
  obtain ⟨book, summary, cache, h, hbook⟩ := SmallBook.exists_load_treeOf read?_manifestText (by decide +kernel)
    (by decide +kernel) SmallBook.hexHash_messages (by decide +kernel) hfields SmallBook.readMessages_eq hrules
    (by decide +kernel) (by decide +kernel) hschemas
  refine ⟨book, summary, cache, h, ?_⟩
  rw [hbook, schema_eq]
  rfl

/-- A message that the schema builds is one that a validator of the rule book builds. -/
theorem exists_construct {book : RuleBook} (hbook : book.schemas.get? "700" = some schema) {values : FieldValues}
    {message : ConstructedMessage} (h : (schema.construct values {}).1 = .ok (.constructed message)) :
    ∃ formats, (Validator.mk book).construct "700" values {} = (.ok (.constructed message), formats) := by
  have hcode : normalizeMessageType "700" = "700" := by decide +kernel
  have hget : (Validator.mk book).book.schemas.get? (normalizeMessageType "700") = some schema := hcode ▸ hbook
  refine ⟨(schema.construct values {}).2, ?_⟩
  rw [Validator.construct_of_some hget, Validator.compilingFields_eq_ok_iff]
  exact Prod.ext h rfl

end WordTagBook

/-- A message without the field of that tag is read again. -/
theorem RuleBook.readsAgain_of_load_wordTagBook : ∃ book summary cache message formats, FormatCache.Reachable {} ∧
    RuleBook.load WordTagBook.tree "s" {} = (.ok (book, summary), cache) ∧
    (Validator.mk book).construct "700" (.ofList [("20 ", "LC1")]) {} = (.ok (.constructed message), formats) ∧
    TextBlock.read message.text = .ok (.ofList [("20", "LC1")]) := by
  obtain ⟨book, summary, cache, hload, hbook⟩ := WordTagBook.exists_load
  let message : ConstructedMessage := ⟨"700", "\x7b4:\r\n:20:LC1\r\n-\x7d", 1, 2⟩
  have hbuilt : (WordTagBook.schema.construct (.ofList [("20 ", "LC1")]) {}).1 = .ok (.constructed message) := by
    decide +kernel
  obtain ⟨formats, hconstruct⟩ := WordTagBook.exists_construct hbook hbuilt
  have hvalues : normalizeValues (.ofList [("20 ", "LC1")]) = .ofList [("20", "LC1")] := by decide +kernel
  obtain ⟨-, hagain, -⟩ := RuleBook.readsAgain_of_load .empty hload .empty hconstruct
  rw [hvalues] at hagain
  exact ⟨book, summary, cache, message, formats, .empty, hload, hconstruct, hagain.restored.2 (by decide)⟩

/-- The rule book is loaded, the message is built, and its last line is refused. -/
theorem RuleBook.refused_wordTagBook : ∃ book summary cache message formats,
    RuleBook.load WordTagBook.tree "s" {} = (.ok (book, summary), cache) ∧
    (∃ schema, book.schemas.get? "700" = some schema ∧
      ∃ f ∈ schema.fields, TextBlock.isTag f.tag.toList = false) ∧
    (Validator.mk book).construct "700" (.ofList [("20", "LC1"), ("REF", "X")]) {} =
      (.ok (.constructed message), formats) ∧
    TextBlock.read message.text = .error (.malformedLine 3 ":REF:X") := by
  obtain ⟨book, summary, cache, hload, hbook⟩ := WordTagBook.exists_load
  let message : ConstructedMessage := ⟨"700", "\x7b4:\r\n:20:LC1\r\n:REF:X\r\n-\x7d", 2, 2⟩
  have hbuilt : (WordTagBook.schema.construct (.ofList [("20", "LC1"), ("REF", "X")]) {}).1 =
      .ok (.constructed message) := by decide +kernel
  obtain ⟨formats, hconstruct⟩ := WordTagBook.exists_construct hbook hbuilt
  have htag : ∃ f ∈ WordTagBook.schema.fields, TextBlock.isTag f.tag.toList = false := by decide
  have hread : TextBlock.read message.text = .error (.malformedLine 3 ":REF:X") := by decide +kernel
  exact ⟨book, summary, cache, message, formats, hload, ⟨_, hbook, htag⟩, hconstruct, hread⟩

end DocumentaryCredit

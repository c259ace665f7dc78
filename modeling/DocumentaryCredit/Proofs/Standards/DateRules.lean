/-
The components that date rules look at. When a rule book is loaded nothing compares the component that a date rule
names with the format of its field. Main statement: the date rules of a loaded rule book name components of their fields
exactly if the rows of its tables do; a row that names none means the first one, which every format has; and a rule
whose component the format does not have is passed by every value, like one whose component a value leaves out.

A rule book with such a rule can be loaded (`UncheckedDateBook`).
-/
import DocumentaryCredit.Message.Field
import DocumentaryCredit.Proofs.Format.Compiled
import DocumentaryCredit.Proofs.Format.Search
import DocumentaryCredit.Proofs.Standards.Schemas

namespace DocumentaryCredit

/-! ## Components in range -/

/-- Every date rule of a rule book names a component of the format of its field. -/
def RuleBook.DatesInRange (book : RuleBook) : Prop :=
  ∀ code schema, book.schemas.get? code = some schema → ∀ f ∈ schema.fields, ∀ n, .date n ∈ f.rules →
    ∃ format, Format.compile f.formatSpec = .ok format ∧ n < format.components.length

/-- Every row with a date rule names a component of the format that the row of its field has. -/
def Tables.DatesInRange (t : Tables) : Prop :=
  ∀ r ∈ t.rules, ∀ n, r.rule = .date n → ∃ row ∈ t.fields, row.messageType = r.messageType ∧
    row.definition.tag = r.tag ∧
      ∃ format, Format.compile row.definition.formatSpec = .ok format ∧ n < format.components.length

/-- A record names a component by its number, or none, which means the first one. -/
inductive NamesComponent (table : Csv.Table) (record : Csv.Row) : Nat → Prop where
  | absent (h : table.get? record "Component" = none) : NamesComponent table record 0
  | given {cell : String} {n : Nat} (h : table.get? record "Component" = some cell)
      (hread : Text.readNat? Text.maxNat64 cell = some n) : NamesComponent table record n

/-! ## Rows with date rules -/

theorem NumberedRow.number?_eq_ok_iff {r : NumberedRow} {limit : Nat} {column : String} {found : Option Nat} :
    r.number? limit column = .ok found ↔ (r.get? column = none ∧ found = none) ∨
      ∃ cell n, r.get? column = some cell ∧ Text.readNat? limit cell = some n ∧ found = some n := by
  unfold number?
  cases r.get? column with
  | none => simp [eq_comm]
  | some cell =>
    cases hread : Text.readNat? limit cell with
    | none => simp [fail, hread]
    | some n => simp [hread, eq_comm]

theorem namesComponent_of_readRule {r : NumberedRow} {kind : RuleKind} {n : Nat} (h : readRule r kind = .ok (.date n)) :
    NamesComponent r.table r.row n := by
  cases kind with
  | length =>
    unfold readRule at h
    obtain ⟨min, -, h⟩ := Except.bind_eq_ok_iff.1 h
    obtain ⟨max, -, h⟩ := Except.bind_eq_ok_iff.1 h
    split at h
    case h_2 => cases h
    split at h <;> cases h
  | pattern =>
    unfold readRule at h
    obtain ⟨text, -, h⟩ := Except.bind_eq_ok_iff.1 h
    split at h <;> cases h
  | date =>
    unfold readRule at h
    obtain ⟨component, hcomponent, h⟩ := Except.bind_eq_ok_iff.1 h
    cases h
    obtain ⟨hnone, rfl⟩ | ⟨cell, n, hcell, hread, rfl⟩ := NumberedRow.number?_eq_ok_iff.1 hcomponent
    · exact .absent hnone
    · exact .given hcell hread
  | crossField =>
    unfold readRule at h
    obtain ⟨relationName, -, h⟩ := Except.bind_eq_ok_iff.1 h
    obtain ⟨relation, -, h⟩ := Except.bind_eq_ok_iff.1 h
    obtain ⟨otherTag, -, h⟩ := Except.bind_eq_ok_iff.1 h
    cases h

theorem RuleRow.namesComponent_of_read {r : NumberedRow} {row : RuleRow} {n : Nat} (h : RuleRow.read r = .ok row)
    (hdate : row.rule = .date n) : NamesComponent r.table r.row n := by
  unfold RuleRow.read at h
  obtain ⟨messageType, -, h⟩ := Except.bind_eq_ok_iff.1 h
  obtain ⟨tag, -, h⟩ := Except.bind_eq_ok_iff.1 h
  obtain ⟨kindName, -, h⟩ := Except.bind_eq_ok_iff.1 h
  obtain ⟨kind, -, h⟩ := Except.bind_eq_ok_iff.1 h
  obtain ⟨rule, hrule, h⟩ := Except.bind_eq_ok_iff.1 h
  obtain rfl := Except.ok.inj h
  obtain rfl : rule = .date n := hdate
  exact namesComponent_of_readRule hrule

/-- A row with a date rule is read off a record of the table of rules. -/
theorem RuleBook.ReadFrom.exists_record {book : RuleBook} {tree : FileTree} {directory : String} {t : Tables}
    (h : book.ReadFrom tree directory t) {r : RuleRow} (hr : r ∈ t.rules) {n : Nat} (hdate : r.rule = .date n) :
    ∃ f bytes table record, book.manifest.Holds tree directory "rules" f bytes ∧ Csv.read bytes = .ok table ∧
      record ∈ table.rows ∧ NamesComponent table record n := by
  obtain ⟨f, bytes, hholds, hrules⟩ := h.rules
  obtain ⟨table, htable, hrows⟩ := readTable_eq_ok_iff.1 hrules
  obtain ⟨⟨record, index⟩, hrecord, hread⟩ := exists_of_mem_of_forall₂ hrows hr
  exact ⟨f, bytes, table, record, hholds, htable, List.fst_mem_of_mem_zipIdx hrecord,
    RuleRow.namesComponent_of_read hread hdate⟩

/-! ## Rules without a component -/

/-- A component that a format does not have has no segment in any value. -/
theorem Format.segment?_eq_none {format : Format} {value : String} {spans : List (Option Span)} {n : Nat}
    (h : format.matchSpans value = .ok spans) (hn : format.components.length ≤ n) :
    Format.segment? value spans n = none := by
  have hlength : spans.length = format.components.length := (decomposition_of_matchSpans h).walk.length_eq
  rw [segment?, List.getElem?_eq_none (by omega)]
  rfl

theorem FieldRule.failure?_date_eq_none {format : Format} {value : String} {spans : List (Option Span)} {n : Nat}
    (h : format.matchSpans value = .ok spans) (hn : format.components.length ≤ n) :
    (FieldRule.date n).failure? spans value = none := by
  simp only [failure?, Format.segment?_eq_none h hn]

/-! ## Rule books -/

/-- The rules of a rule book are in range if the rows are, and only then. -/
theorem RuleBook.Loaded.datesInRange_iff {book : RuleBook} {summary : RuleBookSummary} {tree : FileTree}
    {directory : String} {t : Tables} (h : book.Loaded summary tree directory t) :
    book.DatesInRange ↔ t.DatesInRange := by
  constructor
  · intro hbook r hr n hdate
    obtain ⟨m, hm, htype, f, hf, htag⟩ := h.exists_named hr
    have hrule : .date n ∈ f.rules := by
      rw [(h.makes m hm).rules f hf]
      exact List.mem_map.2 ⟨r, List.mem_filter.2 ⟨hr, decide_eq_true ⟨htype.symm, htag.symm⟩⟩, hdate⟩
    obtain ⟨format, hformat, hn⟩ := hbook _ _ (h.get?_schemas hm) f hf n hrule
    obtain ⟨row, hrow, hrowType, hdefinition⟩ := (h.makes m hm).exists_row hf
    refine ⟨row, hrow, hrowType.trans htype, ?_, format, ?_, hn⟩
    · rw [hdefinition, FieldDefinition.tag_withoutRules, htag]
    · rwa [hdefinition, FieldDefinition.formatSpec_withoutRules]
  · intro ht code schema hget f hf n hrule
    obtain ⟨m, hm, rfl, hmakes⟩ := h.assembledFrom.exists_makes hget
    rw [hmakes.rules f hf] at hrule
    obtain ⟨r, hr, hdate⟩ := List.mem_map.1 hrule
    obtain ⟨hr, hnames⟩ := List.mem_filter.1 hr
    obtain ⟨htype, htag⟩ := of_decide_eq_true hnames
    obtain ⟨row, hrow, hrowType, hrowTag, format, hformat, hn⟩ := ht r hr n hdate
    rw [hmakes.definition_eq hf hrow (hrowType.trans htype) (hrowTag.trans htag)] at hformat
    exact ⟨format, hformat, hn⟩

/-- **Date rules are in range exactly if their rows are.** Nothing in loading a rule book makes them so: each row with a
date rule has the component that its record names, or the first one, which every field has; and a rule for a component
that its field does not have is passed by every value that has the format of the field. -/
theorem RuleBook.datesInRange_iff_of_load {tree : FileTree} {directory : String} {cache cache' : FormatCache}
    {book : RuleBook} {summary : RuleBookSummary} (hcache : cache.Reachable)
    (h : RuleBook.load tree directory cache = (.ok (book, summary), cache')) :
    ∃ t, book.ReadFrom tree directory t ∧ (book.DatesInRange ↔ t.DatesInRange) ∧
      (∀ r ∈ t.rules, ∀ n, r.rule = .date n → ∃ f bytes table record,
        book.manifest.Holds tree directory "rules" f bytes ∧ Csv.read bytes = .ok table ∧ record ∈ table.rows ∧
          NamesComponent table record n) ∧
      ∀ code schema, book.schemas.get? code = some schema → ∀ f ∈ schema.fields, ∃ format,
        Format.compile f.formatSpec = .ok format ∧ 0 < format.components.length ∧
          ∀ n, .date n ∈ f.rules → format.components.length ≤ n → ∀ value spans,
            format.matchSpans value = .ok spans → (FieldRule.date n).failure? spans value = none := by
  obtain ⟨t, hloaded⟩ := exists_loaded hcache h
  refine ⟨t, hloaded.toReadFrom, hloaded.datesInRange_iff,
    fun r hr n hdate => hloaded.toReadFrom.exists_record hr hdate, fun code schema hget f hf => ?_⟩
  obtain ⟨m, -, -, hmakes⟩ := hloaded.assembledFrom.exists_makes hget
  obtain ⟨format, hformat⟩ := hmakes.formats f hf
  exact ⟨format, hformat, List.length_pos_iff.2 (Format.components_ne_nil_of_compile hformat),
    fun n _ hn value spans hmatch => FieldRule.failure?_date_eq_none hmatch hn⟩

/-! ## A rule book with a rule out of range -/

namespace UncheckedDateBook

/-- Two dates, each the only component of its field. -/
def fields : String := "Message Type,Sequence,Tag,Field Name,Format,Mandatory
700,1,31C,Issue,6!n,Y
700,2,44C,Shipment,6!n,N
"

/-- The first rule counts components from one. -/
def rules : String := "Message Type,Tag,Rule Kind,Component
700,31C,date,1
700,44C,date,
"

def manifestText : String := "[manifest]
schema = \"lc-checker.standards-manifest\"
schema_version = 1
[pins]
swift_mt = \"SR2023\"
ucp = \"UCP600\"
[[files]]
path = \"fields.csv\"
sha256 = \"53d5e7b10eee523d093a0cf0a41122c257c89ad522734833d987d840571ec007\"
kind = \"csv\"
role = \"fields\"
[[files]]
path = \"messages.csv\"
sha256 = \"5d31ace6d327884af67e86bb83b2f71aa4d85d449d0008920f7239bc75d6506a\"
kind = \"csv\"
role = \"messages\"
[[files]]
path = \"rules.csv\"
sha256 = \"91a4252bbda5ff758765382b6e4d64674cc7f11851268b0562aee4965131b6e4\"
kind = \"csv\"
role = \"rules\"
"

/-- What the text of the manifest says. -/
def manifest : Manifest :=
  SmallBook.manifestOf "53d5e7b10eee523d093a0cf0a41122c257c89ad522734833d987d840571ec007"
    "5d31ace6d327884af67e86bb83b2f71aa4d85d449d0008920f7239bc75d6506a"
    "91a4252bbda5ff758765382b6e4d64674cc7f11851268b0562aee4965131b6e4"

/-- The directory; its message types are those of the small rule book. -/
def tree : FileTree := SmallBook.treeOf manifestText fields SmallBook.messages rules

set_option maxRecDepth 10000 in
theorem read?_manifestText : Manifest.read? manifestText = some manifest := by
  rw [Manifest.read?, Toml.read?, show manifestText.toList = _ from String.toList_ofList]
  with_unfolding_all rfl

/-- The rows of the tables. -/
def tables : Tables where
  messages := [⟨"700", "Issue", ""⟩]
  fields := [⟨"700", ⟨"31C", "Issue", "6!n", true, 1, none, 1, []⟩⟩,
    ⟨"700", ⟨"44C", "Shipment", "6!n", false, 2, none, 1, []⟩⟩]
  rules := [⟨"700", "31C", .date 1⟩, ⟨"700", "44C", .date 0⟩]

/-- The date of issue, which no rule looks at. -/
def issueDate : FieldDefinition := ⟨"31C", "Issue", "6!n", true, 1, none, 1, [.date 1]⟩

/-- The one schema of the rule book. -/
def schema : Schema where
  messageType := "700"
  name := "Issue"
  version := ""
  fields := [issueDate, ⟨"44C", "Shipment", "6!n", false, 2, none, 1, [.date 0]⟩]

/-- The format of both fields. -/
def dateFormat : Format := ⟨"6!n", [⟨.fixed, .numeric, 6, 6, none, .none, none⟩]⟩

theorem compile_eq : Format.compile "6!n" = .ok dateFormat := by decide +kernel

theorem schema_eq : tables.messages.map tables.schema = [schema] := by cbv

theorem exists_load : ∃ book summary cache, RuleBook.load tree "s" {} = (.ok (book, summary), cache) ∧
    book.schemas.get? "700" = some schema := by
  have hfields : readFields "s/fields.csv" (Text.toBytes fields) = .ok tables.fields := by decide +kernel
  have hrules : readRules "s/rules.csv" (Text.toBytes rules) = .ok tables.rules := by decide +kernel
  have hschemas : ∀ schema ∈ tables.messages.map tables.schema, (schema.check {}).1 = .ok () := by
    rw [schema_eq]
    decide +kernel
  obtain ⟨book, summary, cache, h, hbook⟩ := SmallBook.exists_load_treeOf read?_manifestText (by decide +kernel)
    (by decide +kernel) SmallBook.hexHash_messages (by decide +kernel) hfields SmallBook.readMessages_eq hrules
    (by decide +kernel) (by decide +kernel) hschemas
  refine ⟨book, summary, cache, h, ?_⟩
  rw [hbook, schema_eq]
  rfl

end UncheckedDateBook

/-- Neither the rule book nor its table has all its dates in range. -/
theorem RuleBook.datesInRange_iff_of_load_uncheckedDateBook : ∃ book summary cache, FormatCache.Reachable {} ∧
    RuleBook.load UncheckedDateBook.tree "s" {} = (.ok (book, summary), cache) ∧
    ∃ t, book.ReadFrom UncheckedDateBook.tree "s" t ∧ ¬ t.DatesInRange ∧
      ∀ value spans, UncheckedDateBook.dateFormat.matchSpans value = .ok spans →
        (FieldRule.date 1).failure? spans value = none := by
  obtain ⟨book, summary, cache, h, hget⟩ := UncheckedDateBook.exists_load
  obtain ⟨t, hread, hrange, -, hpassed⟩ := RuleBook.datesInRange_iff_of_load .empty h
  have hmem : UncheckedDateBook.issueDate ∈ UncheckedDateBook.schema.fields := by simp [UncheckedDateBook.schema]
  have hrule : .date 1 ∈ UncheckedDateBook.issueDate.rules := by simp [UncheckedDateBook.issueDate]
  refine ⟨book, summary, cache, .empty, h, t, hread, fun ht => ?_, ?_⟩
  · obtain ⟨format, hformat, hn⟩ := hrange.2 ht _ _ hget _ hmem 1 hrule
    obtain rfl := Except.ok.inj (UncheckedDateBook.compile_eq.symm.trans hformat)
    exact absurd hn (by decide)
  · obtain ⟨format, hformat, -, hpassed⟩ := hpassed _ _ hget _ hmem
    obtain rfl := Except.ok.inj (UncheckedDateBook.compile_eq.symm.trans hformat)
    exact hpassed 1 hrule (by decide)

/-- The rule book is loaded, its rule looks at a component that there is not, and a day in month 13 passes. -/
theorem RuleBook.unchecked_uncheckedDateBook : ∃ book summary cache,
    RuleBook.load UncheckedDateBook.tree "s" {} = (.ok (book, summary), cache) ∧ ¬ book.DatesInRange ∧
    (∃ schema, book.schemas.get? "700" = some schema ∧ ∃ f ∈ schema.fields, .date 1 ∈ f.rules ∧
      f.validate UncheckedDateBook.dateFormat (some "241399") = ⟨"31C", none⟩) ∧
    Date.ofDigits? "241399".toList = none := by
  obtain ⟨book, summary, cache, h, hget⟩ := UncheckedDateBook.exists_load
  have hmem : UncheckedDateBook.issueDate ∈ UncheckedDateBook.schema.fields := by simp [UncheckedDateBook.schema]
  have hrule : .date 1 ∈ UncheckedDateBook.issueDate.rules := by simp [UncheckedDateBook.issueDate]
  refine ⟨book, summary, cache, h, fun hrange => ?_, ⟨_, hget, _, hmem, hrule, by decide +kernel⟩, by decide +kernel⟩
  obtain ⟨format, hformat, hn⟩ := hrange _ _ hget _ hmem 1 hrule
  obtain rfl := Except.ok.inj (UncheckedDateBook.compile_eq.symm.trans hformat)
  exact absurd hn (by decide)

end DocumentaryCredit

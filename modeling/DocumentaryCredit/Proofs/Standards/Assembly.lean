/-
Rule books are put together from their tables and from nothing else. Main statement: in a rule book that has been
loaded, each message type has a schema with exactly its rows of fields, in the order of their sequence numbers, and each
field has exactly the rules that name it, in the order of their rows (`RuleBook.AssembledFrom`); the numbers that are
reported are those of the fields and rules held.

The rules are counted by the fields that they name: no two fields of a rule book have message type and tag in common.
-/
import DocumentaryCredit.Proofs.Standards.Loading
import DocumentaryCredit.Proofs.Standards.Tables
import Mathlib.Algebra.BigOperators.Group.Finset.Basic

namespace DocumentaryCredit

/-! ## What is put together -/

/-- A field as its row has it, before rules are added. -/
def FieldDefinition.withoutRules (d : FieldDefinition) : FieldDefinition := { d with rules := [] }

@[simp] theorem FieldDefinition.tag_withoutRules (d : FieldDefinition) : d.withoutRules.tag = d.tag := rfl

@[simp] theorem FieldDefinition.formatSpec_withoutRules (d : FieldDefinition) :
    d.withoutRules.formatSpec = d.formatSpec := rfl

/-- A schema is made of the row of its message type and the rows that name it. -/
structure Tables.Makes (t : Tables) (m : MessageRow) (schema : Schema) : Prop where
  messageType : schema.messageType = m.messageType
  name : schema.name = m.name
  version : schema.version = m.version
  /-- The fields are the rows of the message type. -/
  fields : (schema.fields.map (·.withoutRules)).Perm
    ((t.fields.filter (·.messageType = m.messageType)).map (·.definition))
  ascending : schema.fields.Pairwise fun f g => f.sequence < g.sequence
  nodup : (schema.fields.map (·.tag)).Nodup
  capitals : ∀ f ∈ schema.fields, Text.asciiUpper f.tag = f.tag
  formats : ∀ f ∈ schema.fields, ∃ format, Format.compile f.formatSpec = .ok format
  /-- The rules of a field are the rows that name it, in their order. -/
  rules : ∀ f ∈ schema.fields,
    f.rules = (t.rules.filter fun r => r.messageType = m.messageType ∧ r.tag = f.tag).map (·.rule)
  crossField : ∀ f ∈ schema.fields, ∀ cross, .crossField cross ∈ f.rules → ∃ g ∈ schema.fields, g.tag = cross.otherTag
  lengths : ∀ f ∈ schema.fields, ∀ min max, .length min max ∈ f.rules → min ≤ max

/-- A rule book is put together from tables: each message type has its schema, and no row is left over. -/
structure RuleBook.AssembledFrom (book : RuleBook) (t : Tables) : Prop where
  messageTypes : ∀ code, code ∈ book.schemas.keys ↔ ∃ m ∈ t.messages, m.messageType = code
  schemas : ∀ m ∈ t.messages, ∃ schema, book.schemas.get? m.messageType = some schema ∧ t.Makes m schema
  fields : ∀ row ∈ t.fields, row.messageType ∈ book.schemas.keys
  rules : ∀ r ∈ t.rules, ∃ schema,
    book.schemas.get? r.messageType = some schema ∧ ∃! f, f ∈ schema.fields ∧ f.tag = r.tag
  articles : (book.articles.map (·.category)).Nodup

/-- The fields that a rule book holds. -/
def RuleBook.fieldTotal (book : RuleBook) : Nat := (book.schemas.values.map fun schema => schema.fields.length).sum

/-- The rules that a rule book holds. -/
def RuleBook.ruleTotal (book : RuleBook) : Nat :=
  (book.schemas.values.map fun schema => (schema.fields.map fun f => f.rules.length).sum).sum

/-! ## Schemas that pass their check -/

namespace Schema

theorem duplicateTag?_eq_none_iff {seen : List String} : ∀ {fields : List FieldDefinition},
    duplicateTag? seen fields = none ↔ (fields.map (·.tag)).Nodup ∧ ∀ f ∈ fields, f.tag ∉ seen
  | [] => by simp [duplicateTag?]
  | f :: rest => by
    unfold duplicateTag?
    split
    · next h => simp_all
    · next h =>
      rw [duplicateTag?_eq_none_iff]
      simp only [List.contains_eq_mem, decide_eq_true_eq] at h
      simp only [List.map_cons, List.nodup_cons, List.mem_map, List.mem_cons, not_or, forall_eq_or_imp, not_exists,
        not_and]
      constructor
      · rintro ⟨hnodup, hnew⟩
        exact ⟨⟨fun g hg => (hnew g hg).1, hnodup⟩, h, fun g hg => (hnew g hg).2⟩
      · rintro ⟨⟨hne, hnodup⟩, -, hnew⟩
        exact ⟨hnodup, fun g hg => ⟨hne g hg, hnew g hg⟩⟩

theorem duplicateSequence?_eq_none_iff {fields : List FieldDefinition} :
    duplicateSequence? fields = none ↔ fields.IsChain fun f g => f.sequence ≠ g.sequence := by
  fun_induction duplicateSequence? fields with
  | case1 f g rest heq => simp [heq]
  | case2 f g rest hne ih => simp [hne, ih]
  | case3 fields h =>
    match fields with
    | [] => simp
    | [_] => simp
    | f :: g :: rest => exact absurd rfl (h f g rest)

/-- A schema that passes its check has distinct tags, distinct neighbours and formats. -/
theorem of_check {schema : Schema} (h : (schema.check {}).1 = .ok ()) :
    (schema.fields.map (·.tag)).Nodup ∧ (schema.fields.IsChain fun f g => f.sequence ≠ g.sequence) ∧
      ∀ f ∈ schema.fields, ∃ format, Format.compile f.formatSpec = .ok format := by
  unfold check at h
  cases htags : duplicateTag? [] schema.fields with
  | some tag =>
    rw [htags] at h
    cases h
  | none =>
  cases hsequences : duplicateSequence? schema.fields with
  | some pair =>
    rw [htags, hsequences] at h
    cases h
  | none =>
  rw [htags, hsequences] at h
  refine ⟨(duplicateTag?_eq_none_iff.1 htags).1, duplicateSequence?_eq_none_iff.1 hsequences, fun f hf => ?_⟩
  obtain ⟨_, _, hloop, -⟩ := Compiling.bind_eq_ok_iff.1 (Prod.ext h rfl)
  obtain ⟨format, hformat⟩ := Compiling.exists_of_forEach (fun _ => Compiling.steady_compiling _ _) .empty hloop f hf
  exact ⟨format, Compiling.compile_eq_of_compiling hformat⟩

end Schema

/-! ## Tables that fit together -/

/-- What is known of the rows of tables that were read. -/
structure Tables.Sound (t : Tables) : Prop where
  messages : t.messages.Pairwise fun a b => a.messageType < b.messageType
  fields : ∀ row ∈ t.fields, Text.asciiUpper row.definition.tag = row.definition.tag ∧ row.definition.rules = []
  rules : ∀ r ∈ t.rules, Text.asciiUpper r.tag = r.tag ∧ r.rule.Sound

theorem RuleBook.ReadFrom.sound {book : RuleBook} {tree : FileTree} {directory : String} {t : Tables}
    (h : book.ReadFrom tree directory t) : t.Sound := by
  obtain ⟨_, _, _, hmessages⟩ := h.messages
  obtain ⟨_, _, _, hfields⟩ := h.fields
  obtain ⟨_, _, _, hrules⟩ := h.rules
  exact ⟨readMessages_pairwise hmessages, forall_of_readTable (fun _ _ => FieldRow.read_definition) hfields,
    forall_of_readTable (fun _ _ => RuleRow.read_rule) hrules⟩

namespace Tables

variable {t : Tables} {path messageType tag : String}

theorem checkFields_eq_ok_iff :
    t.checkFields path = .ok () ↔ ∀ row ∈ t.fields, ∃ m ∈ t.messages, m.messageType = row.messageType := by
  unfold checkFields
  split
  · next row h =>
    simp only [reduceCtorEq, false_iff, not_forall]
    exact ⟨row, List.mem_of_find?_eq_some h, by simpa using List.find?_some h⟩
  · next h =>
    simpa using h

theorem checkRules_eq_ok_iff : t.checkRules path = .ok () ↔ ∀ r ∈ t.rules, t.undefinedTag? r = none := by
  unfold checkRules
  split
  · next messageType tag h =>
    obtain ⟨r, hr, hsome⟩ := List.exists_of_findSome?_eq_some h
    simp only [reduceCtorEq, false_iff, not_forall]
    refine ⟨r, hr, fun hnone => ?_⟩
    rw [hnone] at hsome
    cases hsome
  · next h =>
    simpa using h

theorem undefinedTag?_eq_none {r : RuleRow} (h : t.undefinedTag? r = none) : t.hasField r.messageType r.tag = true ∧
    ∀ cross, r.rule = .crossField cross → t.hasField r.messageType cross.otherTag = true := by
  unfold undefinedTag? at h
  split at h
  · next cross hcross =>
    split at h
    · cases h
    next hother =>
    split at h
    · next hfield =>
      refine ⟨hfield, fun cross' hcross' => ?_⟩
      rw [hcross] at hcross'
      cases hcross'
      simpa using hother
    · cases h
  · next hcross =>
    split at h
    · next hfield => exact ⟨hfield, fun cross hcross' => absurd hcross' (hcross cross)⟩
    · cases h

/-- The field of a tag in capitals. -/
theorem Sound.hasField_iff (h : t.Sound) (htag : Text.asciiUpper tag = tag) : t.hasField messageType tag = true ↔
    (∃ m ∈ t.messages, m.messageType = messageType) ∧ ∃ d ∈ t.fieldsOf messageType, d.tag = tag := by
  have hcapitals : ∀ d ∈ t.fieldsOf messageType, Text.equalIgnoringCase d.tag tag = true ↔ d.tag = tag := by
    intro d hd
    obtain ⟨row, hrow, rfl⟩ := List.mem_map.1 hd
    rw [Text.equalIgnoringCase_iff, htag, (h.fields row (List.mem_of_mem_filter hrow)).1]
  simp only [hasField, Bool.and_eq_true, List.any_eq_true, decide_eq_true_eq]
  exact and_congr_right' (exists_congr fun d => and_congr_right (hcapitals d))

/-- The rules of a field are the rows that name it. -/
theorem Sound.rulesOf_eq (h : t.Sound) (htag : Text.asciiUpper tag = tag) : t.rulesOf messageType tag =
    (t.rules.filter fun r => r.messageType = messageType ∧ r.tag = tag).map (·.rule) := by
  unfold rulesOf
  congr 1
  refine List.filter_congr fun r hr => ?_
  rw [Bool.eq_iff_iff, Bool.and_eq_true, Text.equalIgnoringCase_iff, htag, (h.rules r hr).1]
  simp only [decide_eq_true_eq, @eq_comm _ tag]

/-- The fields of a schema are those of its rows, with the rules of each. -/
theorem perm_fields (t : Tables) (m : MessageRow) : (t.schema m).fields.Perm
    ((t.fieldsOf m.messageType).map fun d => { d with rules := t.rulesOf m.messageType d.tag }) :=
  List.mergeSort_perm _ _

theorem mem_fields_iff {m : MessageRow} {f : FieldDefinition} : f ∈ (t.schema m).fields ↔
    ∃ d ∈ t.fieldsOf m.messageType, { d with rules := t.rulesOf m.messageType d.tag } = f :=
  (t.perm_fields m).mem_iff.trans List.mem_map

theorem Sound.mem_fieldsOf (h : t.Sound) {d : FieldDefinition} (hd : d ∈ t.fieldsOf messageType) :
    Text.asciiUpper d.tag = d.tag ∧ d.rules = [] := by
  obtain ⟨row, hrow, rfl⟩ := List.mem_map.1 hd
  exact h.fields row (List.mem_of_mem_filter hrow)

theorem fields_ascending {m : MessageRow}
    (hne : (t.schema m).fields.IsChain fun f g => f.sequence ≠ g.sequence) :
    (t.schema m).fields.Pairwise fun f g => f.sequence < g.sequence :=
  pairwise_lt_mergeSort (fun _ _ => decide_eq_true_iff) hne

/-- A schema that passes its check is made of its rows, if the tables fit together. -/
theorem Sound.makes (h : t.Sound) (hrules : ∀ r ∈ t.rules, t.undefinedTag? r = none) {m : MessageRow}
    (hcheck : ((t.schema m).check {}).1 = .ok ()) : t.Makes m (t.schema m) := by
  obtain ⟨hnodup, hne, hformats⟩ := Schema.of_check hcheck
  have hrulesOf : ∀ f ∈ (t.schema m).fields,
      f.rules = (t.rules.filter fun r => r.messageType = m.messageType ∧ r.tag = f.tag).map (·.rule) := by
    intro f hf
    obtain ⟨d, hd, rfl⟩ := mem_fields_iff.1 hf
    exact h.rulesOf_eq (h.mem_fieldsOf hd).1
  have hrow : ∀ f ∈ (t.schema m).fields, ∀ rule ∈ f.rules,
      ∃ r ∈ t.rules, r.messageType = m.messageType ∧ r.rule = rule := by
    intro f hf rule hrule
    rw [hrulesOf f hf] at hrule
    obtain ⟨r, hr, rfl⟩ := List.mem_map.1 hrule
    obtain ⟨hr, hnames⟩ := List.mem_filter.1 hr
    exact ⟨r, hr, (of_decide_eq_true hnames).1, rfl⟩
  exact {
    messageType := rfl
    name := rfl
    version := rfl
    fields := by
      refine ((t.perm_fields m).map _).trans ?_
      rw [List.map_map]
      refine .of_eq ((List.map_congr_left fun d hd => ?_).trans (List.map_id _))
      obtain ⟨-, hrules⟩ := h.mem_fieldsOf hd
      cases d
      cases hrules
      rfl
    ascending := fields_ascending hne
    nodup := hnodup
    capitals := by
      intro f hf
      obtain ⟨d, hd, rfl⟩ := mem_fields_iff.1 hf
      exact (h.mem_fieldsOf hd).1
    formats := hformats
    rules := hrulesOf
    crossField := by
      intro f hf cross hcross
      obtain ⟨r, hr, htype, hrule⟩ := hrow f hf _ hcross
      have hother := (undefinedTag?_eq_none (hrules r hr)).2 cross hrule
      have hcapitals : (FieldRule.crossField cross).Sound := hrule ▸ (h.rules r hr).2
      obtain ⟨-, d, hd, htag⟩ := (h.hasField_iff hcapitals).1 hother
      exact ⟨_, mem_fields_iff.2 ⟨d, htype ▸ hd, rfl⟩, htag⟩
    lengths := by
      intro f hf min max hlength
      obtain ⟨r, hr, -, hrule⟩ := hrow f hf _ hlength
      have hsound : (FieldRule.length min max).Sound := hrule ▸ (h.rules r hr).2
      exact hsound }

/-! ## Counting rules by the fields that they name -/

/-- The message type and tag of each field that a rule book holds. -/
def places (t : Tables) : List (String × String) :=
  t.messages.flatMap fun m => (t.schema m).fields.map fun f => (m.messageType, f.tag)

theorem mem_places_iff {place : String × String} : place ∈ t.places ↔
    ∃ m ∈ t.messages, m.messageType = place.1 ∧ ∃ f ∈ (t.schema m).fields, f.tag = place.2 := by
  obtain ⟨messageType, tag⟩ := place
  simp only [places, List.mem_flatMap, List.mem_map, Prod.mk.injEq]
  constructor
  · rintro ⟨m, hm, f, hf, htype, htag⟩
    exact ⟨m, hm, htype, f, hf, htag⟩
  · rintro ⟨m, hm, htype, f, hf, htag⟩
    exact ⟨m, hm, f, hf, htype, htag⟩

theorem Sound.nodup_places (h : t.Sound) (htags : ∀ m ∈ t.messages, ((t.schema m).fields.map (·.tag)).Nodup) :
    t.places.Nodup := by
  refine List.nodup_flatMap.2 ⟨fun m hm => ?_, h.messages.imp fun {a b} hlt => ?_⟩
  · refine .of_map Prod.snd ?_
    rw [List.map_map]
    exact htags m hm
  · rintro place ha hb
    obtain ⟨_, -, rfl⟩ := List.mem_map.1 ha
    obtain ⟨_, -, heq⟩ := List.mem_map.1 hb
    exact absurd (Prod.mk.inj heq).1 (ne_of_gt hlt)

end Tables

/-- Each member is counted at its own key. -/
theorem sum_countP_eq_length {α κ : Type} [DecidableEq κ] {key : α → κ} {keys : List κ} {members : List α}
    (hnodup : keys.Nodup) (hmem : ∀ a ∈ members, key a ∈ keys) :
    (keys.map fun k => members.countP fun a => key a = k).sum = members.length := by
  have hsum := Multiset.sum_count_eq_card (s := keys.toFinset) (m := (members.map key : Multiset κ))
    (by simpa using hmem)
  simp only [Multiset.coe_count, Multiset.coe_card, List.length_map, List.count, List.countP_map] at hsum
  rw [← hsum, List.sum_toFinset _ hnodup]
  rfl

namespace Tables

variable {t : Tables}

/-- Every rule is held by one field, and so the rules held are as many as the rows. -/
theorem Sound.sum_rules (h : t.Sound) (htags : ∀ m ∈ t.messages, ((t.schema m).fields.map (·.tag)).Nodup)
    (hmakes : ∀ m ∈ t.messages, t.Makes m (t.schema m))
    (hplaces : ∀ r ∈ t.rules, (r.messageType, r.tag) ∈ t.places) :
    (t.messages.map fun m => ((t.schema m).fields.map fun f => f.rules.length).sum).sum = t.rules.length := by
  have hcount : ∀ m ∈ t.messages, ∀ f ∈ (t.schema m).fields,
      f.rules.length = t.rules.countP fun r => (r.messageType, r.tag) = (m.messageType, f.tag) := by
    intro m hm f hf
    rw [(hmakes m hm).rules f hf, List.length_map, List.countP_eq_length_filter]
    simp only [Prod.mk.injEq]
  have hsum := sum_countP_eq_length (h.nodup_places htags) hplaces
  rw [← hsum, places, List.map_flatMap, List.flatMap_def, List.sum_flatten, List.map_map]
  congr 1
  refine List.map_congr_left fun m hm => ?_
  rw [Function.comp_apply, List.map_map]
  congr 1
  exact List.map_congr_left (hcount m hm)

end Tables

/-! ## Rule books -/

namespace RuleBook.Loaded

variable {book : RuleBook} {summary : RuleBookSummary} {tree : FileTree} {directory : String} {t : Tables}

theorem undefinedTag?_eq_none (h : book.Loaded summary tree directory t) : ∀ r ∈ t.rules, t.undefinedTag? r = none := by
  obtain ⟨_, hrules⟩ := h.rulesChecked
  exact Tables.checkRules_eq_ok_iff.1 hrules

theorem makes (h : book.Loaded summary tree directory t) : ∀ m ∈ t.messages, t.Makes m (t.schema m) := fun m hm =>
  h.sound.makes h.undefinedTag?_eq_none (h.schemasChecked m hm)

/-- The schemas are those of the message types, each under its code. -/
theorem perm_schemas (h : book.Loaded summary tree directory t) :
    book.schemas.entries.Perm (t.messages.map fun m => (m.messageType, t.schema m)) := by
  have hnodup : ((t.messages.map fun m => (m.messageType, t.schema m)).map (·.1)).Nodup := by
    rw [List.map_map]
    exact List.pairwise_map.2 (h.sound.messages.imp ne_of_lt)
  rw [h.schemas]
  exact TextMap.perm_ofList hnodup

theorem get?_schemas (h : book.Loaded summary tree directory t) {m : MessageRow} (hm : m ∈ t.messages) :
    book.schemas.get? m.messageType = some (t.schema m) :=
  TextMap.get?_eq_some_iff.2 (h.perm_schemas.mem_iff.2 (List.mem_map.2 ⟨m, hm, rfl⟩))

/-- The field that a rule names. -/
theorem exists_named (h : book.Loaded summary tree directory t) {r : RuleRow} (hr : r ∈ t.rules) :
    ∃ m ∈ t.messages, m.messageType = r.messageType ∧ ∃ f ∈ (t.schema m).fields, f.tag = r.tag := by
  obtain ⟨hfield, -⟩ := Tables.undefinedTag?_eq_none (h.undefinedTag?_eq_none r hr)
  obtain ⟨⟨m, hm, htype⟩, d, hd, htag⟩ := (h.sound.hasField_iff (h.sound.rules r hr).1).1 hfield
  exact ⟨m, hm, htype, _, Tables.mem_fields_iff.2 ⟨d, htype ▸ hd, rfl⟩, htag⟩

/-- A rule book that has been loaded is put together from its tables. -/
theorem assembledFrom (h : book.Loaded summary tree directory t) : book.AssembledFrom t := by
  have hkeys : ∀ code, code ∈ book.schemas.keys ↔ ∃ m ∈ t.messages, m.messageType = code := by
    intro code
    rw [TextMap.keys, (h.perm_schemas.map (·.1)).mem_iff, List.map_map]
    exact List.mem_map
  refine ⟨hkeys, fun m hm => ⟨_, h.get?_schemas hm, h.makes m hm⟩, fun row hrow => (hkeys _).2 ?_, ?_, ?_⟩
  · obtain ⟨_, hfields⟩ := h.fieldsChecked
    exact Tables.checkFields_eq_ok_iff.1 hfields row hrow
  · intro r hr
    obtain ⟨m, hm, htype, f, hf, htag⟩ := h.exists_named hr
    refine ⟨_, htype ▸ h.get?_schemas hm, f, ⟨hf, htag⟩, fun g ⟨hg, hgtag⟩ => ?_⟩
    exact List.inj_on_of_nodup_map (h.makes m hm).nodup hg hf (hgtag.trans htag.symm)
  · rcases h.articles with ⟨_, _, -, harticles⟩ | ⟨-, hempty⟩
    · exact readArticles_nodup harticles
    · rw [hempty]
      exact .nil

end RuleBook.Loaded

/-- **A rule book that has been loaded is put together from the tables of its directory**, and its summary counts the
fields and rules that it holds. -/
theorem RuleBook.assembledFrom_of_load {tree : FileTree} {directory : String} {cache cache' : FormatCache}
    {book : RuleBook} {summary : RuleBookSummary} (hcache : cache.Reachable)
    (h : RuleBook.load tree directory cache = (.ok (book, summary), cache')) :
    ∃ t, book.ReadFrom tree directory t ∧ book.AssembledFrom t ∧
      summary.fieldCount = book.fieldTotal ∧ summary.ruleCount = book.ruleTotal := by
  obtain ⟨t, hloaded⟩ := exists_loaded hcache h
  have hvalues : book.schemas.values.Perm (t.messages.map t.schema) := by
    refine (hloaded.perm_schemas.map (·.2)).trans (.of_eq ?_)
    rw [List.map_map]
    rfl
  refine ⟨t, hloaded.toReadFrom, hloaded.assembledFrom, ?_, ?_⟩
  · rw [hloaded.fieldCount, fieldTotal, (hvalues.map _).sum_eq, List.map_map]
    rfl
  · have hplaces : ∀ r ∈ t.rules, (r.messageType, r.tag) ∈ t.places := fun r hr =>
      Tables.mem_places_iff.2 (hloaded.exists_named hr)
    rw [hloaded.ruleCount, ruleTotal, (hvalues.map _).sum_eq, List.map_map,
      ← hloaded.sound.sum_rules (fun m hm => (hloaded.makes m hm).nodup) hloaded.makes hplaces]
    rfl

/-- The small rule book is one. -/
theorem RuleBook.assembledFrom_of_load_smallBook : ∃ book summary cache, FormatCache.Reachable {} ∧
    RuleBook.load SmallBook.tree "s" {} = (.ok (book, summary), cache) ∧
    ∃ t, book.ReadFrom SmallBook.tree "s" t ∧ book.AssembledFrom t ∧
      summary.fieldCount = book.fieldTotal ∧ summary.ruleCount = book.ruleTotal := by
  obtain ⟨book, summary, cache, h⟩ := SmallBook.exists_load
  exact ⟨book, summary, cache, .empty, h, RuleBook.assembledFrom_of_load .empty h⟩

end DocumentaryCredit

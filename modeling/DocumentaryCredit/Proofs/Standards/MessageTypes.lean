/-
The codes under which the schemas of a rule book are found. A table may write a code with `MT` in front, and so may a
request; either loses it once. Main statement: with `MT` in front of its code every schema that was loaded is found, and
by the code itself exactly if the code does not begin with `MT` once more, for then what is looked up is what follows.

A rule book with such a code can be loaded (`TwicePrefixedBook`).
-/
import DocumentaryCredit.Proofs.Standards.Schemas

namespace DocumentaryCredit

/-! ## Codes -/

/-- A text begins with the letters that may stand in front of a code. -/
def StartsWithMT (code : String) : Prop := "MT".toList <+: code.toList ∨ "mt".toList <+: code.toList

instance : DecidablePred StartsWithMT := fun code =>
  inferInstanceAs (Decidable ("MT".toList <+: code.toList ∨ "mt".toList <+: code.toList))

section Normalize

variable {s front rest code : String}

/-- Of a text that begins with the letters only what follows them counts. -/
theorem normalizeMessageType_of_start (hfront : front = "MT" ∨ front = "mt")
    (h : (Text.trim s).toList = front.toList ++ rest.toList) : normalizeMessageType s = Text.trim rest := by
  have hstrip : Text.stripStart? front (Text.trim s) = some rest := Text.stripStart?_eq_some_iff.2 h
  unfold normalizeMessageType
  rcases hfront with rfl | rfl
  · simp only [hstrip, Option.orElse_some, Option.getD_some]
  · have hcapitals : Text.stripStart? "MT" (Text.trim s) = none := by
      refine Option.eq_none_iff_forall_not_mem.2 fun other hother => ?_
      have hother := Text.stripStart?_eq_some_iff.1 hother
      rw [h] at hother
      exact absurd (List.cons.inj hother).1 (by decide)
    simp only [hcapitals, hstrip, Option.orElse_none, Option.getD_some]

theorem normalizeMessageType_of_not_start (h : ¬ StartsWithMT (Text.trim s)) :
    normalizeMessageType s = Text.trim s := by
  have hnone : ∀ front, ¬ front.toList <+: (Text.trim s).toList → Text.stripStart? front (Text.trim s) = none := by
    intro front hfront
    refine Option.eq_none_iff_forall_not_mem.2 fun rest hrest => hfront ⟨rest.toList, ?_⟩
    exact (Text.stripStart?_eq_some_iff.1 hrest).symm
  obtain ⟨hcapitals, hsmall⟩ := not_or.1 h
  unfold normalizeMessageType
  simp only [hnone _ hcapitals, hnone _ hsmall, Option.orElse_none, Option.getD_none, Text.trim_trim]

/-- A code has no white space around it. -/
theorem trim_normalizeMessageType (s : String) : Text.trim (normalizeMessageType s) = normalizeMessageType s :=
  Text.trim_trim _

/-- A code with the letters in front comes to the code. -/
theorem normalizeMessageType_append (hcode : Text.trim code = code) : normalizeMessageType ("MT" ++ code) = code := by
  have htrim : Text.trim ("MT" ++ code) = "MT" ++ code := Text.trim_append (by decide) (by simp [Text.isBlankChar]) hcode
  have hchars : (Text.trim ("MT" ++ code)).toList = "MT".toList ++ code.toList := by rw [htrim, String.toList_append]
  rw [normalizeMessageType_of_start (.inl rfl) hchars, hcode]

/-- A code comes to itself, unless it begins with the letters. -/
theorem normalizeMessageType_eq_self_iff (hcode : Text.trim code = code) :
    normalizeMessageType code = code ↔ ¬ StartsWithMT code := by
  constructor
  · intro hself hstart
    -- What is left of the code is shorter by the letters, at least.
    have hshorter : ∀ front, front = "MT" ∨ front = "mt" → front.toList <+: code.toList → False := by
      rintro front hfront ⟨rest, hrest⟩
      have hchars : (Text.trim code).toList = front.toList ++ (String.ofList rest).toList := by
        rw [hcode, String.toList_ofList, hrest]
      rw [normalizeMessageType_of_start hfront hchars] at hself
      have hlength := congrArg String.length hself
      have hle : (Text.trim (String.ofList rest)).length ≤ rest.length := by
        rw [← String.length_toList, Text.trim, String.toList_ofList, String.toList_ofList]
        exact Text.length_trimChars_le
      have htwo : front.toList.length = 2 := by rcases hfront with rfl | rfl <;> rfl
      have hsum := congrArg List.length hrest
      rw [List.length_append, htwo, String.length_toList] at hsum
      omega
    exact hstart.elim (hshorter _ (.inl rfl)) (hshorter _ (.inr rfl))
  · intro hstart
    rw [normalizeMessageType_of_not_start (by rwa [hcode]), hcode]

end Normalize

/-! ## Rule books -/

theorem MessageRow.messageType_of_read {r : NumberedRow} {m : MessageRow} (h : MessageRow.read r = .ok m) :
    Text.trim m.messageType = m.messageType := by
  unfold MessageRow.read at h
  obtain ⟨cell, -, h⟩ := Except.bind_eq_ok_iff.1 h
  obtain ⟨name, -, h⟩ := Except.bind_eq_ok_iff.1 h
  obtain rfl := Except.ok.inj h
  exact trim_normalizeMessageType cell

/-- The message types that are read are those of the rows, in their order. -/
theorem trim_messageType_of_readMessages {path : String} {bytes : List UInt8} {rows : List MessageRow}
    (h : readMessages path bytes = .ok rows) : ∀ m ∈ rows, Text.trim m.messageType = m.messageType := by
  unfold readMessages at h
  obtain ⟨found, hfound, h⟩ := Except.bind_eq_ok_iff.1 h
  simp only at h
  split at h
  · cases h
  · cases h
    exact fun m hm => forall_of_readTable (fun _ _ => MessageRow.messageType_of_read) hfound m (List.mem_mergeSort.1 hm)

theorem RuleBook.schema_eq_ok_iff {book : RuleBook} {request : String} {schema : Schema} :
    book.schema request = .ok schema ↔ book.schemas.get? (normalizeMessageType request) = some schema := by
  unfold RuleBook.schema
  cases hget : book.schemas.get? (normalizeMessageType request) <;> simp [hget]

/-- The codes of a rule book that has been loaded have no white space around them. -/
theorem RuleBook.trim_code_of_load {tree : FileTree} {directory : String} {cache cache' : FormatCache}
    {book : RuleBook} {summary : RuleBookSummary} (hcache : cache.Reachable)
    (h : RuleBook.load tree directory cache = (.ok (book, summary), cache')) :
    ∀ code ∈ book.schemas.keys, Text.trim code = code := by
  obtain ⟨t, hloaded⟩ := exists_loaded hcache h
  obtain ⟨_, _, -, hmessages⟩ := hloaded.toReadFrom.messages
  intro code hcode
  obtain ⟨m, hm, rfl⟩ := (hloaded.assembledFrom.messageTypes code).1 hcode
  exact trim_messageType_of_readMessages hmessages m hm

/-- **Every schema that was loaded is found by its code with `MT` in front**, and by the code alone exactly if the code
does not begin with these letters itself. -/
theorem RuleBook.found_of_load {tree : FileTree} {directory : String} {cache cache' : FormatCache}
    {book : RuleBook} {summary : RuleBookSummary} (hcache : cache.Reachable)
    (h : RuleBook.load tree directory cache = (.ok (book, summary), cache')) :
    (∀ code ∈ book.schemas.keys, ∃ schema, schema.messageType = code ∧ book.schema ("MT" ++ code) = .ok schema ∧
      (book.schema code = .ok schema ↔ ¬ StartsWithMT code)) ∧
    ∀ schema ∈ book.schemas.values, ∃ request, book.schema request = .ok schema := by
  have htype := (wellFormed_of_load hcache h).messageType
  have hcodes : ∀ code schema, book.schemas.get? code = some schema → schema.messageType = code ∧
      book.schema ("MT" ++ code) = .ok schema ∧ (book.schema code = .ok schema ↔ ¬ StartsWithMT code) := by
    intro code schema hget
    have hcode := trim_code_of_load hcache h code (TextMap.mem_keys_iff.2 ⟨schema, hget⟩)
    refine ⟨htype code schema hget, ?_, ?_⟩
    · rw [schema_eq_ok_iff, normalizeMessageType_append hcode, hget]
    · rw [schema_eq_ok_iff, ← normalizeMessageType_eq_self_iff hcode]
      constructor
      · exact fun hfound => (htype _ schema hfound).symm.trans (htype code schema hget)
      · intro hself
        rw [hself, hget]
  constructor
  · intro code hcode
    obtain ⟨schema, hget⟩ := TextMap.mem_keys_iff.1 hcode
    exact ⟨schema, hcodes code schema hget⟩
  · intro schema hschema
    obtain ⟨⟨code, _⟩, hentry, rfl⟩ := List.mem_map.1 hschema
    exact ⟨_, (hcodes code _ (TextMap.get?_eq_some_iff.2 hentry)).2.1⟩

/-! ## A rule book with a code behind two prefixes -/

namespace TwicePrefixedBook

def messages : String := "Message Type,Name
700,Issue
MTMT707,Amendment
"

def fields : String := "Message Type,Sequence,Tag,Field Name,Format,Mandatory
700,1,20,Number,16x,Y
MTMT707,1,20,Number,16x,Y
"

def rules : String := "Message Type,Tag,Rule Kind
"

def manifestText : String := "[manifest]
schema = \"lc-checker.standards-manifest\"
schema_version = 1
[pins]
swift_mt = \"SR2023\"
ucp = \"UCP600\"
[[files]]
path = \"fields.csv\"
sha256 = \"87429b5aaae6339043dc0ddc1f36e54f69e3d39d95792dc07f065a09257cec04\"
kind = \"csv\"
role = \"fields\"
[[files]]
path = \"messages.csv\"
sha256 = \"b2b16521dc237e168970dde3e8a10d3b4ac59909c2ffab434461ca3531018e39\"
kind = \"csv\"
role = \"messages\"
[[files]]
path = \"rules.csv\"
sha256 = \"704d20036fe86c847e0bcca8395ec09095e7e6baf402f78dc68ff7a55888a5e7\"
kind = \"csv\"
role = \"rules\"
"

def tree : FileTree := SmallBook.treeOf manifestText fields messages rules

set_option maxRecDepth 10000 in
theorem read?_manifestText : Manifest.read? manifestText = some (SmallBook.manifestOf
    "87429b5aaae6339043dc0ddc1f36e54f69e3d39d95792dc07f065a09257cec04"
    "b2b16521dc237e168970dde3e8a10d3b4ac59909c2ffab434461ca3531018e39"
    "704d20036fe86c847e0bcca8395ec09095e7e6baf402f78dc68ff7a55888a5e7") := by
  rw [Manifest.read?, Toml.read?, show manifestText.toList = _ from String.toList_ofList]
  with_unfolding_all rfl

/-- The one field of both message types. -/
def number : FieldDefinition := ⟨"20", "Number", "16x", true, 1, none, 1, []⟩

/-- The rows of the tables, each code without one `MT`. -/
def tables : Tables where
  messages := [⟨"700", "Issue", ""⟩, ⟨"MT707", "Amendment", ""⟩]
  fields := [⟨"700", number⟩, ⟨"MT707", number⟩]
  rules := []

theorem schemas_eq : tables.messages.map tables.schema =
    [⟨"700", "Issue", "", [number]⟩, ⟨"MT707", "Amendment", "", [number]⟩] := by cbv

theorem exists_load : ∃ book summary cache, RuleBook.load tree "s" {} = (.ok (book, summary), cache) ∧
    book.schemas.keys = ["700", "MT707"] ∧ book.schemas.get? "707" = none := by
  have hfields : readFields "s/fields.csv" (Text.toBytes fields) = .ok tables.fields := by decide +kernel
  have hmessages : readMessages "s/messages.csv" (Text.toBytes messages) = .ok tables.messages := by cbv
  have hrules : readRules "s/rules.csv" (Text.toBytes rules) = .ok tables.rules := by decide +kernel
  have hschemas : ∀ schema ∈ tables.messages.map tables.schema, (schema.check {}).1 = .ok () := by
    rw [schemas_eq]
    decide +kernel
  obtain ⟨book, summary, cache, h, hbook⟩ := SmallBook.exists_load_treeOf read?_manifestText (by decide +kernel)
    (by decide +kernel) (by decide +kernel) (by decide +kernel) hfields hmessages hrules (by decide +kernel)
    (by decide +kernel) hschemas
  refine ⟨book, summary, cache, h, ?_⟩
  rw [hbook, schemas_eq]
  decide +kernel

end TwicePrefixedBook

/-- Both schemas are found with `MT` in front of their codes, and the first by its code as well. -/
theorem RuleBook.found_of_load_twicePrefixedBook : ∃ book summary cache, FormatCache.Reachable {} ∧
    RuleBook.load TwicePrefixedBook.tree "s" {} = (.ok (book, summary), cache) ∧
    (∃ schema, schema.messageType = "700" ∧ book.schema "MT700" = .ok schema ∧ book.schema "700" = .ok schema) ∧
    ∃ schema, schema.messageType = "MT707" ∧ book.schema "MTMT707" = .ok schema ∧ book.schema "MT707" ≠ .ok schema := by
  obtain ⟨book, summary, cache, h, hkeys, -⟩ := TwicePrefixedBook.exists_load
  obtain ⟨hfound, -⟩ := RuleBook.found_of_load .empty h
  obtain ⟨issue, htype, hprefixed, hcode⟩ := hfound "700" (by simp [hkeys])
  obtain ⟨amendment, htype', hprefixed', hcode'⟩ := hfound "MT707" (by simp [hkeys])
  refine ⟨book, summary, cache, .empty, h, ⟨issue, htype, hprefixed, hcode.2 (by decide)⟩, amendment, htype', hprefixed', ?_⟩
  exact fun hok => hcode'.1 hok (by decide)

/-- The rule book is loaded, and the second of its codes is not known to it. -/
theorem RuleBook.unknown_twicePrefixedBook : ∃ book summary cache,
    RuleBook.load TwicePrefixedBook.tree "s" {} = (.ok (book, summary), cache) ∧
    book.schemas.keys = ["700", "MT707"] ∧ book.schema "MT707" = .error (.unknownMessageType "707") := by
  obtain ⟨book, summary, cache, h, hkeys, hget⟩ := TwicePrefixedBook.exists_load
  have hcode : normalizeMessageType "MT707" = "707" := by decide +kernel
  refine ⟨book, summary, cache, h, hkeys, ?_⟩
  unfold RuleBook.schema
  simp only [hcode, hget]

end DocumentaryCredit

/-
Tags that are one tag. Before a message is validated its tags are trimmed and put in capitals, and tags that differ in
no more than that fall together. Of the values that are stated under them only the last is kept, in the order in which
the tags stand before they are changed (`get?_normalizeValues`); the others are lost without a word, since validation
sees the values only afterwards. Main statement: from the text of a message everything that was stated can be had
exactly if values under one tag agree and the tags can be read (`RuleBook.keptIn_iff_of_load`).
-/
import DocumentaryCredit.Proofs.Message.ReadableTags

namespace DocumentaryCredit

/-- The tag under which a value is validated and written. -/
def normalTag (tag : String) : String := Text.asciiUpper (Text.trim tag)

namespace FieldValues

/-- Every value that is stated, and is not blank, is found in a text under its tag. -/
def KeptIn (values : FieldValues) (text : String) : Prop := ∃ fields, TextBlock.read text = .ok fields ∧
  ∀ e ∈ values.entries, Text.isBlank e.2 = false → fields.get? (normalTag e.1) = some (Text.normalizeLineBreaks e.2)

/-- Values that are stated under one tag are the same but for their line breaks. -/
def Unambiguous (values : FieldValues) : Prop := ∀ a ∈ values.entries, ∀ b ∈ values.entries,
  Text.isBlank a.2 = false → Text.isBlank b.2 = false → normalTag a.1 = normalTag b.1 →
    Text.normalizeLineBreaks a.2 = Text.normalizeLineBreaks b.2

/-- The values that are stated under a tag, one after another. -/
def statedUnder (values : FieldValues) (tag : String) : List (String × String) :=
  values.entries.filter fun e => !Text.isBlank e.2 && normalTag e.1 == tag

end FieldValues

/-! ## The value that is kept -/

/-- Of the entries with one key the last is in their map. -/
theorem TextMap.get?_ofList {α : Type} (entries : List (String × α)) (key : String) :
    (ofList entries).get? key = ((entries.filter (·.1 == key)).getLast?).map (·.2) := by
  induction entries using List.reverseRecOn with
  | nil => rfl
  | append_singleton entries e ih =>
    have hlast : ofList (entries ++ [e]) = (ofList entries).insert e.1 e.2 := by
      simp [ofList]
    rw [hlast, get?_insert, ih, List.filter_append]
    by_cases hkey : e.1 = key
    · simp [hkey]
    · simp [hkey, Ne.symm hkey]

theorem get?_normalizeValues (values : FieldValues) (tag : String) : (normalizeValues values).get? tag =
    ((values.statedUnder tag).getLast?).map fun e => Text.normalizeLineBreaks e.2 := by
  let normalEntry (e : String × String) : String × String := (normalTag e.1, Text.normalizeLineBreaks e.2)
  have hstated : ((values.entries.filter fun e => !Text.isBlank e.2).map normalEntry).filter (·.1 == tag) =
      (values.statedUnder tag).map normalEntry := by
    rw [List.filter_map, List.filter_filter]
    refine congrArg (List.map normalEntry) (List.filter_congr fun e _ => ?_)
    exact Bool.and_comm ..
  have hget : (normalizeValues values).get? tag =
      ((((values.entries.filter fun e => !Text.isBlank e.2).map normalEntry).filter (·.1 == tag)).getLast?).map (·.2) :=
    TextMap.get?_ofList _ tag
  rw [hget, hstated, List.getLast?_map, Option.map_map]
  rfl

namespace FieldValues

variable {values : FieldValues} {tag value : String}

theorem mem_statedUnder_iff {e : String × String} : e ∈ values.statedUnder tag ↔
    e ∈ values.entries ∧ Text.isBlank e.2 = false ∧ normalTag e.1 = tag := by
  simp [statedUnder]

/-- What is kept under a tag is one of the values that are stated under it. -/
theorem exists_of_get?_normalizeValues (h : (normalizeValues values).get? tag = some value) :
    ∃ e ∈ values.statedUnder tag, Text.normalizeLineBreaks e.2 = value := by
  rw [get?_normalizeValues, Option.map_eq_some_iff] at h
  obtain ⟨e, hlast, hvalue⟩ := h
  exact ⟨e, List.mem_of_getLast? hlast, hvalue⟩

/-- Something is kept under a tag under which something is stated. -/
theorem exists_get?_normalizeValues {e : String × String} (he : e ∈ values.statedUnder tag) :
    ∃ value, (normalizeValues values).get? tag = some value := by
  rw [get?_normalizeValues]
  cases hlast : (values.statedUnder tag).getLast? with
  | none =>
    rw [List.getLast?_eq_none_iff] at hlast
    rw [hlast] at he
    cases he
  | some last => exact ⟨_, rfl⟩

theorem mem_keys_normalizeValues_iff : tag ∈ (normalizeValues values).keys ↔ ∃ e, e ∈ values.statedUnder tag := by
  rw [TextMap.mem_keys_iff]
  constructor
  · intro ⟨value, h⟩
    obtain ⟨e, he, -⟩ := exists_of_get?_normalizeValues h
    exact ⟨e, he⟩
  · intro ⟨e, he⟩
    exact exists_get?_normalizeValues he

/-- A value that agrees with all others under its tag is kept. -/
theorem Unambiguous.get?_normalizeValues (h : values.Unambiguous) {e : String × String} (he : e ∈ values.entries)
    (hpresent : Text.isBlank e.2 = false) :
    (normalizeValues values).get? (normalTag e.1) = some (Text.normalizeLineBreaks e.2) := by
  have hstated : e ∈ values.statedUnder (normalTag e.1) := mem_statedUnder_iff.2 ⟨he, hpresent, rfl⟩
  obtain ⟨value, hvalue⟩ := exists_get?_normalizeValues hstated
  obtain ⟨last, hlast, rfl⟩ := exists_of_get?_normalizeValues hvalue
  obtain ⟨hmem, hpresent', htag⟩ := mem_statedUnder_iff.1 hlast
  rw [hvalue, h last hmem e he hpresent' hpresent htag]

/-- A text that reads back as the normal form of values has them all, if they are unambiguous. -/
theorem keptIn_iff {text : String} (h : TextBlock.ReadsAgain (normalizeValues values) text) : values.KeptIn text ↔
    values.Unambiguous ∧ ∀ tag ∈ (normalizeValues values).keys, TextBlock.isTag tag.toList = true := by
  constructor
  · intro ⟨fields, hread, hkept⟩
    refine ⟨fun a ha b hb hpresent hpresent' htag => ?_, fun tag htag => ?_⟩
    · have hget := hkept a ha hpresent
      rw [htag, hkept b hb hpresent'] at hget
      exact (Option.some.inj hget).symm
    · obtain ⟨e, he⟩ := mem_keys_normalizeValues_iff.1 htag
      obtain ⟨hmem, hpresent, rfl⟩ := mem_statedUnder_iff.1 he
      exact h.tags fields hread _ (TextMap.mem_keys_iff.2 ⟨_, hkept e hmem hpresent⟩)
  · intro ⟨hunambiguous, htags⟩
    exact ⟨_, h.restored.2 htags, fun e he hpresent => hunambiguous.get?_normalizeValues he hpresent⟩

end FieldValues

/-- **Everything that was stated can be had from a message exactly if values under one tag agree** and the tags can be
read. Under each tag the message has the last of the values that were stated under it. -/
theorem RuleBook.keptIn_iff_of_load {tree : FileTree} {directory : String} {cache cache' : FormatCache}
    {book : RuleBook} {summary : RuleBookSummary} (hcache : cache.Reachable)
    (hload : RuleBook.load tree directory cache = (.ok (book, summary), cache')) {formats formats' : FormatCache}
    {messageType : String} {values : FieldValues} {message : ConstructedMessage}
    (h : (Validator.mk book).construct messageType values formats = (.ok (.constructed message), formats')) :
    (values.KeptIn message.text ↔
      values.Unambiguous ∧ ∀ tag ∈ (normalizeValues values).keys, TextBlock.isTag tag.toList = true) ∧
    ∀ fields, TextBlock.read message.text = .ok fields →
      (∀ tag ∈ (normalizeValues values).keys, TextBlock.isTag tag.toList = true) → ∀ tag,
        fields.get? tag = ((values.statedUnder tag).getLast?).map fun e => Text.normalizeLineBreaks e.2 := by
  obtain ⟨schema, -, -, -, hagain⟩ := (wellFormed_of_load hcache hload).exists_of_construct h
  refine ⟨FieldValues.keptIn_iff hagain, fun fields hread htags tag => ?_⟩
  rw [hagain.restored.2 htags] at hread
  cases hread
  exact get?_normalizeValues values tag

/-- Two references that are the same, the one with a space before its tag, and a blank one are one reference. -/
theorem RuleBook.keptIn_wordTagBook : ∃ book summary cache message formats, FormatCache.Reachable {} ∧
    RuleBook.load WordTagBook.tree "s" {} = (.ok (book, summary), cache) ∧
    (Validator.mk book).construct "700" (.ofList [(" 20", "LC1"), ("20", "LC1"), ("20 ", " ")]) {} =
      (.ok (.constructed message), formats) ∧
    FieldValues.KeptIn (.ofList [(" 20", "LC1"), ("20", "LC1"), ("20 ", " ")]) message.text := by
  obtain ⟨book, summary, cache, hload, hbook⟩ := WordTagBook.exists_load
  let values : FieldValues := .ofList [(" 20", "LC1"), ("20", "LC1"), ("20 ", " ")]
  let message : ConstructedMessage := ⟨"700", "\x7b4:\r\n:20:LC1\r\n-\x7d", 1, 2⟩
  have hbuilt : (WordTagBook.schema.construct values {}).1 = .ok (.constructed message) := by decide +kernel
  obtain ⟨formats, hconstruct⟩ := WordTagBook.exists_construct hbook hbuilt
  have hunambiguous : values.Unambiguous := by
    unfold FieldValues.Unambiguous
    decide +kernel
  have htags : ∀ tag ∈ (normalizeValues values).keys, TextBlock.isTag tag.toList = true := by decide +kernel
  obtain ⟨hkept, -⟩ := RuleBook.keptIn_iff_of_load .empty hload hconstruct
  exact ⟨book, summary, cache, message, formats, .empty, hload, hconstruct, hkept.2 ⟨hunambiguous, htags⟩⟩

/-- Of two references, the one with a space before its tag is lost. -/
theorem RuleBook.not_keptIn_wordTagBook : ∃ book summary cache message formats,
    RuleBook.load WordTagBook.tree "s" {} = (.ok (book, summary), cache) ∧
    (Validator.mk book).construct "700" (.ofList [(" 20", "LOST"), ("20", "KEPT")]) {} =
      (.ok (.constructed message), formats) ∧
    TextBlock.read message.text = .ok (.ofList [("20", "KEPT")]) ∧
    ¬ FieldValues.KeptIn (.ofList [(" 20", "LOST"), ("20", "KEPT")]) message.text := by
  obtain ⟨book, summary, cache, hload, hbook⟩ := WordTagBook.exists_load
  let message : ConstructedMessage := ⟨"700", "\x7b4:\r\n:20:KEPT\r\n-\x7d", 1, 2⟩
  have hbuilt : (WordTagBook.schema.construct (.ofList [(" 20", "LOST"), ("20", "KEPT")]) {}).1 =
      .ok (.constructed message) := by decide +kernel
  obtain ⟨formats, hconstruct⟩ := WordTagBook.exists_construct hbook hbuilt
  have hread : TextBlock.read message.text = .ok (.ofList [("20", "KEPT")]) := by decide +kernel
  refine ⟨book, summary, cache, message, formats, hload, hconstruct, hread, fun ⟨fields, hfields, hkept⟩ => ?_⟩
  rw [hread] at hfields
  cases hfields
  have hlost := hkept (" 20", "LOST") (by decide +kernel) (by decide +kernel)
  revert hlost
  decide +kernel

end DocumentaryCredit

/-
Names in several spellings. Raw names that differ in case, or in how their words are joined, come to the same name, and of
these the one that comes first in the order of the texts is looked at, before it is known whether it has a value. A blank
value therefore hides all spellings of its name behind its own, though not those before it, nor the other names of the
field.
-/
import DocumentaryCredit.Presentation.Extraction
import DocumentaryCredit.Proofs.Text
import DocumentaryCredit.Proofs.TextMap

namespace DocumentaryCredit

namespace Text

/-- What is blank is trimmed to nothing, and nothing else is. -/
theorem isEmpty_trim (s : String) : (trim s).isEmpty = isBlank s := by
  rw [Bool.eq_iff_iff, String.isEmpty_iff, isBlank, ← trimChars_eq_nil_iff, trim, ← String.toList_inj,
    String.toList_ofList]
  rfl

end Text

namespace Document

variable {d : Document} {names : List String} {name : String} {field : LogicalField}

/-- A raw value that is stated under one of some names: it is not blank, and no blank value stands under an earlier
spelling of its name. -/
structure Shows (d : Document) (names : List String) (entry : String × String) : Prop where
  mem : entry ∈ d.rawFields.entries
  named : normalizeKey entry.1 ∈ names
  filled : Text.isBlank entry.2 = false
  foremost : ∀ other ∈ d.rawFields.entries, normalizeKey other.1 = normalizeKey entry.1 →
    Text.isBlank other.2 = true → entry.1 < other.1

/-- Under a name a value is found if one is shown under this name. -/
theorem exists_rawValue?_iff :
    (∃ value, d.rawValue? name = some value ∧ Text.isBlank value = false) ↔ ∃ entry, d.Shows [name] entry := by
  unfold rawValue?
  constructor
  · rintro ⟨value, hvalue, hfilled⟩
    obtain ⟨entry, hfind, rfl⟩ := Option.map_eq_some_iff.1 hvalue
    have hname : normalizeKey entry.1 = name := by simpa using List.find?_some hfind
    refine ⟨entry, List.mem_of_find?_eq_some hfind, by simp [hname], hfilled, fun other hother hsame hblank => ?_⟩
    have hle := TextMap.le_of_find?_entries hfind hother (by simp [hsame, hname])
    refine lt_of_le_of_ne hle fun heq => ?_
    rw [List.inj_on_of_nodup_map d.rawFields.nodup_keys (List.mem_of_find?_eq_some hfind) hother heq, hblank] at hfilled
    cases hfilled
  · rintro ⟨entry, hshows⟩
    have hname : normalizeKey entry.1 = name := by simpa using hshows.named
    have hsome : (d.rawFields.entries.find? fun e => normalizeKey e.1 == name).isSome :=
      List.find?_isSome.2 ⟨entry, hshows.mem, by simp [hname]⟩
    obtain ⟨first, hfirst⟩ := Option.isSome_iff_exists.1 hsome
    refine ⟨first.2, by simp [hfirst], ?_⟩
    by_contra hblank
    have hle := TextMap.le_of_find?_entries hfirst hshows.mem (by simp [hname])
    have hsame : normalizeKey first.1 = name := by simpa using List.find?_some hfirst
    have hlt := hshows.foremost first (List.mem_of_find?_eq_some hfirst) (hsame.trans hname.symm) (by simpa using hblank)
    exact absurd hlt (not_lt.2 hle)

theorem shows_iff {entry : String × String} :
    d.Shows names entry ↔ ∃ name ∈ names, d.Shows [name] entry := by
  constructor
  · exact fun h => ⟨_, h.named, h.mem, by simp, h.filled, h.foremost⟩
  · rintro ⟨name, hname, h⟩
    obtain rfl : normalizeKey entry.1 = name := by simpa using h.named
    exact ⟨h.mem, hname, h.filled, h.foremost⟩

/-- Of several names each is looked under on its own: what is blank under one is no matter under the others. -/
theorem isSome_lookup?_iff : (d.lookup? names).isSome ↔ ∃ entry, d.Shows names entry := by
  have hname : ∀ name, ((d.rawValue? name).filter (!Text.isBlank ·)).isSome ↔ ∃ entry, d.Shows [name] entry := by
    intro name
    rw [← exists_rawValue?_iff, Option.isSome_iff_exists]
    simp [Option.filter_eq_some_iff]
  rw [lookup?, List.findSome?_isSome_iff]
  simp only [hname]
  constructor
  · rintro ⟨name, hmem, entry, h⟩
    exact ⟨entry, shows_iff.2 ⟨name, hmem, h⟩⟩
  · rintro ⟨entry, h⟩
    obtain ⟨name, hmem, h⟩ := shows_iff.1 h
    exact ⟨name, hmem, entry, h⟩

theorem not_isBlank_of_lookup? {raw : String} (h : d.lookup? names = some raw) : Text.isBlank raw = false := by
  obtain ⟨name, -, hraw⟩ := List.exists_of_findSome?_eq_some h
  simpa using (Option.filter_eq_some_iff.1 hraw).2

/-- The value of a field that is not the name of a party is not cut down to nothing. -/
theorem isSome_stated?_iff (hparty : field.category ≠ .partyName) :
    (d.stated? field).isSome ↔ (d.lookup? (aliases d.kind field)).isSome := by
  unfold stated?
  simp only [if_neg hparty]
  cases h : d.lookup? (aliases d.kind field) with
  | none => rfl
  | some raw =>
    have hvalue : (Text.trim raw).isEmpty = false := (Text.isEmpty_trim raw).trans (not_isBlank_of_lookup? h)
    simp [Option.filter, hvalue]

theorem exists_mem_extract_iff_isSome : (∃ value, (field, value) ∈ d.extract) ↔ (d.stated? field).isSome := by
  have hall : field ∈ (Named.all : List LogicalField) := by cases field <;> decide
  rw [Option.isSome_iff_exists]
  simp only [extract, List.mem_filterMap, Option.map_eq_some_iff, Prod.mk.injEq]
  constructor
  · rintro ⟨value, _, -, _, hstated, rfl, rfl⟩
    exact ⟨_, hstated⟩
  · rintro ⟨value, hstated⟩
    exact ⟨value, field, hall, value, hstated, rfl, rfl⟩

/-- **Which fields are stated.** A field that is not the name of a party is stated exactly if there is a raw value under
one of its names that is not blank and stands before every blank one under a spelling of the same name. -/
theorem exists_mem_extract_iff (d : Document) (hparty : field.category ≠ .partyName) :
    (∃ value, (field, value) ∈ d.extract) ↔ ∃ entry, d.Shows (aliases d.kind field) entry := by
  rw [exists_mem_extract_iff_isSome, isSome_stated?_iff hparty, isSome_lookup?_iff]

/-- An invoice with its amount before a blank one, and a blank total before the amount. -/
def amountFirst : Document :=
  ⟨.commercialInvoice, none, .ofList [("Amount", "USD 10,00"), ("amount", "  "), ("INVOICE-AMOUNT", "")]⟩

theorem exists_mem_extract_iff_amountFirst :
    LogicalField.amount.category ≠ .partyName ∧ ∃ value, (LogicalField.amount, value) ∈ amountFirst.extract := by
  have hparty : LogicalField.amount.category ≠ .partyName := by decide
  refine ⟨hparty, (exists_mem_extract_iff amountFirst hparty).2 ⟨("Amount", "USD 10,00"), ?_, ?_, ?_, ?_⟩⟩
  · decide +kernel
  · decide +kernel
  · decide +kernel
  · decide +kernel

/-- An invoice with its amount behind a blank one. -/
def blankFirst : Document := ⟨.commercialInvoice, none, .ofList [("AMOUNT", "  "), ("amount", "USD 10,00")]⟩

/-- An amount under one spelling of its name is not stated when another spelling before it has a blank value. -/
theorem not_exists_mem_extract_blankFirst :
    (∃ entry ∈ blankFirst.rawFields.entries,
        normalizeKey entry.1 ∈ aliases blankFirst.kind .amount ∧ Text.isBlank entry.2 = false) ∧
      ¬ ∃ value, (LogicalField.amount, value) ∈ blankFirst.extract := by
  have hextract : blankFirst.extract = [] := by decide +kernel
  constructor
  · decide +kernel
  · simp [hextract]

end Document

end DocumentaryCredit

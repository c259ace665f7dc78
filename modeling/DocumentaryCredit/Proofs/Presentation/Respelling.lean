/-
Raw names that are spelled another way. The raw fields of a document are kept in the order of their names as they are
spelled, and looked through for one name after another. Where no two raw names of a document come to the same, this order
is of no matter: a field is found by what its name comes to. Main statement: the names of a set's documents may be spelled
in any way that comes to the same, and what the documents state, what is found in the set and the report stay as they are.
-/
import DocumentaryCredit.Presentation.Report
import DocumentaryCredit.Proofs.Presentation.Independence
import DocumentaryCredit.Proofs.TextMap

namespace DocumentaryCredit

namespace Document

/-- No two raw names of the document come to the same. -/
def HasDistinctNames (d : Document) : Prop := (d.rawFields.keys.map normalizeKey).Nodup

/-- Spelled anew, each raw name of the document comes to what it came to. -/
def KeepsNames (d : Document) (rename : String → String) : Prop :=
  ∀ key ∈ d.rawFields.keys, normalizeKey (rename key) = normalizeKey key

/-- The document with its raw names spelled anew. -/
def respell (d : Document) (rename : String → String) : Document :=
  { d with rawFields := .ofList (d.rawFields.entries.map fun entry => (rename entry.1, entry.2)) }

variable {d : Document} {rename : String → String} {name value : String}

theorem HasDistinctNames.rawValue?_eq_some_iff (h : d.HasDistinctNames) :
    d.rawValue? name = some value ↔ ∃ key, (key, value) ∈ d.rawFields.entries ∧ normalizeKey key = name := by
  have hnodup : (d.rawFields.entries.map fun entry => normalizeKey entry.1).Nodup := by
    rwa [HasDistinctNames, TextMap.keys, List.map_map] at h
  unfold rawValue?
  simp only [Option.map_eq_some_iff, find?_eq_some_iff_of_nodup hnodup fun _ _ => beq_iff_eq]
  constructor
  · rintro ⟨⟨key, _⟩, ⟨hmem, hname⟩, rfl⟩
    exact ⟨key, hmem, hname⟩
  · rintro ⟨key, hmem, hname⟩
    exact ⟨(key, value), ⟨hmem, hname⟩, rfl⟩

theorem KeepsNames.map_normalizeKey (hrename : d.KeepsNames rename) :
    (d.rawFields.keys.map rename).map normalizeKey = d.rawFields.keys.map normalizeKey := by
  rw [List.map_map]
  exact List.map_congr_left hrename

/-- None of the raw fields is lost: names that do not come to the same are not spelled alike. -/
theorem KeepsNames.perm_entries (hrename : d.KeepsNames rename) (h : d.HasDistinctNames) :
    (d.respell rename).rawFields.entries.Perm (d.rawFields.entries.map fun entry => (rename entry.1, entry.2)) := by
  refine TextMap.perm_ofList ?_
  rw [HasDistinctNames, ← hrename.map_normalizeKey] at h
  simpa [TextMap.keys, Function.comp_def] using h.of_map

theorem KeepsNames.hasDistinctNames (hrename : d.KeepsNames rename) (h : d.HasDistinctNames) :
    (d.respell rename).HasDistinctNames := by
  have hkeys : (d.respell rename).rawFields.keys.Perm (d.rawFields.keys.map rename) := by
    simpa [TextMap.keys, Function.comp_def] using (hrename.perm_entries h).map (·.1)
  rw [HasDistinctNames, (hkeys.map normalizeKey).nodup_iff, hrename.map_normalizeKey]
  exact h

/-- Under each name the same raw value is found. -/
theorem rawValue?_respell (h : d.HasDistinctNames) (hrename : d.KeepsNames rename) (name : String) :
    (d.respell rename).rawValue? name = d.rawValue? name := by
  ext value
  rw [(hrename.hasDistinctNames h).rawValue?_eq_some_iff, h.rawValue?_eq_some_iff]
  simp only [(hrename.perm_entries h).mem_iff, List.mem_map, Prod.mk.injEq, Prod.exists]
  constructor
  · rintro ⟨_, ⟨key, _, hmem, rfl, rfl⟩, hname⟩
    exact ⟨key, hmem, by rw [← hname, hrename key (List.mem_map_of_mem hmem)]⟩
  · rintro ⟨key, hmem, hname⟩
    exact ⟨rename key, ⟨key, value, hmem, rfl, rfl⟩, by rw [hrename key (List.mem_map_of_mem hmem), hname]⟩

theorem lookup?_respell (h : d.HasDistinctNames) (hrename : d.KeepsNames rename) (names : List String) :
    (d.respell rename).lookup? names = d.lookup? names := by
  simp only [lookup?, rawValue?_respell h hrename]

theorem stated?_respell (h : d.HasDistinctNames) (hrename : d.KeepsNames rename) (field : LogicalField) :
    (d.respell rename).stated? field = d.stated? field := by
  unfold stated?
  rw [lookup?_respell h hrename]
  rfl

theorem extract_respell (h : d.HasDistinctNames) (hrename : d.KeepsNames rename) :
    (d.respell rename).extract = d.extract := by
  simp only [extract, stated?_respell h hrename]

theorem tolerance?_respell (h : d.HasDistinctNames) (hrename : d.KeepsNames rename) :
    (d.respell rename).tolerance? = d.tolerance? := by
  unfold tolerance?
  rw [lookup?_respell h hrename]
  rfl

end Document

/-! ## Sets of documents -/

/-- Documents are compared by what they state, and by nothing else. -/
theorem comparePair_of_side? {equivalence : Equivalence} {tolerance : Option Tolerance} {a b a' b' : Entry}
    (ha : ∀ field, a'.side? field = a.side? field) (hb : ∀ field, b'.side? field = b.side? field) :
    comparePair equivalence tolerance a' b' = comparePair equivalence tolerance a b := by
  simp only [comparePair, fieldDisagreements, boundedPairs, ha, hb]

/-- The document at its place with its raw names spelled anew. -/
def Entry.respell (rename : Nat → String → String) (e : Entry) : Entry :=
  { e with document := e.document.respell (rename e.index) }

namespace DocumentSet

/-- The set with the raw names of the document at each place spelled anew. -/
def respell (set : DocumentSet) (rename : Nat → String → String) : DocumentSet :=
  { set with documents := set.documents.mapIdx fun i d => d.respell (rename i) }

variable {set : DocumentSet} {rename : Nat → String → String}

theorem entries_respell : (set.respell rename).entries = set.entries.map (.respell rename) := by
  refine List.ext_getElem (by simp [entries, respell]) fun i hi hi' => ?_
  simp [entries, respell, Entry.respell]

theorem tolerance?_eq (set : DocumentSet) : set.tolerance? =
    ((set.entries.find? (·.document.kind.isCredit)).bind (·.document.tolerance?)).bind parseTolerance? := by
  rw [tolerance?, ← map_document_entries, List.find?_map, Option.bind_map]
  rfl

section

variable (hdistinct : ∀ d ∈ set.documents, d.HasDistinctNames)
  (hrename : ∀ i (d : Document), set.documents[i]? = some d → d.KeepsNames (rename i))

include hdistinct hrename

theorem keepsNames_of_mem_entries {e : Entry} (he : e ∈ set.entries) :
    e.document.HasDistinctNames ∧ e.document.KeepsNames (rename e.index) := by
  obtain ⟨⟨d, i⟩, hmem, rfl⟩ := List.mem_map.1 he
  have hget : set.documents[i]? = some d := by simpa [List.mem_zipIdx_iff_getElem?] using hmem
  exact ⟨hdistinct d (List.mem_of_getElem? hget), hrename i d hget⟩

theorem side?_respell {e : Entry} (he : e ∈ set.entries) (field : LogicalField) :
    (e.respell rename).side? field = e.side? field := by
  obtain ⟨h, hkeeps⟩ := keepsNames_of_mem_entries hdistinct hrename he
  have hstated : (e.document.respell (rename e.index)).stated? field = e.document.stated? field :=
    Document.stated?_respell h hkeeps field
  unfold Entry.side? Entry.respell
  simp only [hstated]
  rfl

theorem tolerance?_respell : (set.respell rename).tolerance? = set.tolerance? := by
  rw [tolerance?_eq, tolerance?_eq, entries_respell, List.find?_map, Option.bind_map]
  refine congrArg (·.bind parseTolerance?) (Option.bind_congr fun e he => ?_)
  obtain ⟨h, hkeeps⟩ := keepsNames_of_mem_entries hdistinct hrename (List.mem_of_find?_eq_some he)
  exact Document.tolerance?_respell h hkeeps

theorem compare_respell (equivalence : Equivalence) :
    (set.respell rename).compare equivalence = set.compare equivalence := by
  rw [compare, compare, tolerance?_respell hdistinct hrename, entries_respell, pairs_map, List.flatMap_map]
  refine List.flatMap_congr fun p hp => ?_
  have hmem := (sublist_of_mem_pairs hp).subset
  exact comparePair_of_side? (side?_respell hdistinct hrename (hmem (by simp)))
    (side?_respell hdistinct hrename (hmem (by simp)))

end

/-- **How raw names are spelled does not matter.** In a set without documents that have two raw names for the same, the
raw names may be spelled in any other way that comes to the same: every document states the same fields and the same
tolerance, the same disagreements are found, and the report is the same. -/
theorem report_respell (set : DocumentSet) (rename : Nat → String → String)
    (hdistinct : ∀ d ∈ set.documents, d.HasDistinctNames)
    (hrename : ∀ i (d : Document), set.documents[i]? = some d → d.KeepsNames (rename i)) :
    (set.respell rename).documents.map (fun d => (d.extract, d.tolerance?)) =
        set.documents.map (fun d => (d.extract, d.tolerance?)) ∧
      (∀ equivalence, (set.respell rename).compare equivalence = set.compare equivalence) ∧
      ∀ equivalence table, (set.respell rename).report equivalence table = set.report equivalence table := by
  have hcompare := compare_respell hdistinct hrename
  refine ⟨?_, hcompare, fun equivalence table => ?_⟩
  · rw [← map_document_entries, ← map_document_entries, entries_respell, List.map_map, List.map_map, List.map_map]
    refine List.map_congr_left fun e he => ?_
    obtain ⟨h, hkeeps⟩ := keepsNames_of_mem_entries hdistinct hrename he
    exact Prod.ext (Document.extract_respell h hkeeps) (Document.tolerance?_respell h hkeeps)
  · rw [report, report, hcompare]
    rfl

/-- A credit with a tolerance, and an invoice for more whose amount is spelled behind a blank one of another name. -/
def overdrawn : DocumentSet := ⟨"S1", "LC1", [
  ⟨.credit, none, .ofList [("32B", "USD100,00"), ("39A", "10/10")]⟩,
  ⟨.commercialInvoice, none, .ofList [("invoice_amount", "USD 120.00"), ("Total", " ")]⟩]⟩

/-- Other spellings of the names; those of the invoice change their order. -/
def overdrawnNames : Nat → String → String
  | 0, key => if key = "39A" then " 39a " else key
  | _, key => if key = "Total" then "total" else if key = "invoice_amount" then "Invoice-Amount" else key

theorem report_respell_overdrawn : (∀ d ∈ overdrawn.documents, d.HasDistinctNames) ∧
    (∀ i (d : Document), overdrawn.documents[i]? = some d → d.KeepsNames (overdrawnNames i)) ∧
    (overdrawn.respell overdrawnNames).documents.map (fun d => d.rawFields.keys) =
      [[" 39a ", "32B"], ["Invoice-Amount", "total"]] ∧
    (overdrawn.respell overdrawnNames).compare {} = overdrawn.compare {} ∧
    (overdrawn.compare {}).map (·.kind) = [.exceedsCredit] := by
  have hdistinct : ∀ d ∈ overdrawn.documents, d.HasDistinctNames := by
    unfold Document.HasDistinctNames
    decide +kernel
  have hrename : ∀ i (d : Document), overdrawn.documents[i]? = some d → d.KeepsNames (overdrawnNames i) := by
    intro i d hd
    match i, hd with
    | 0, hd | 1, hd =>
      cases hd
      unfold Document.KeepsNames
      decide +kernel
  exact ⟨hdistinct, hrename, by decide +kernel, (report_respell overdrawn overdrawnNames hdistinct hrename).2.1 {},
    by decide +kernel⟩

end DocumentSet

end DocumentaryCredit

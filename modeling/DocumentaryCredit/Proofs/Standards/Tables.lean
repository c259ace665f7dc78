/-
What the rows of tables are known to be once the tables are read. Every record of a file is read as one row; the message
types come out in ascending order, tags are in capitals, the bounds of a length are in order, and no two articles are of
one category.
-/
import DocumentaryCredit.Proofs.Computation
import DocumentaryCredit.Proofs.Text
import DocumentaryCredit.Standards.Tables

namespace DocumentaryCredit

variable {path : String} {bytes : List UInt8}

/-- The rows of a table are read off its records, one by one. -/
theorem readTable_eq_ok_iff {α : Type} {readRow : NumberedRow → Except StandardsError α} {rows : List α} :
    readTable path bytes readRow = .ok rows ↔ ∃ table, Csv.read bytes = .ok table ∧
      List.Forall₂ (fun record row => readRow ⟨table, path, record.2 + 1, record.1⟩ = .ok row)
        table.rows.zipIdx rows := by
  unfold readTable
  cases Csv.read bytes with
  | error cause => simp
  | ok table => simp [Except.mapM_eq_ok_iff]

/-- What is true of whatever a record is read as is true of all rows. -/
theorem forall_of_readTable {α : Type} {readRow : NumberedRow → Except StandardsError α} {P : α → Prop}
    (hP : ∀ r row, readRow r = .ok row → P row) {rows : List α} (h : readTable path bytes readRow = .ok rows) :
    ∀ row ∈ rows, P row := by
  obtain ⟨table, -, hrows⟩ := readTable_eq_ok_iff.1 h
  intro row hrow
  obtain ⟨record, -, hread⟩ := exists_of_mem_of_forall₂ hrows hrow
  exact hP _ row hread

/-- A list in order without equal neighbours is in strict order. -/
theorem pairwise_lt_of_isChain_ne {α κ : Type} [LinearOrder κ] {key : α → κ} : ∀ {l : List α},
    l.Pairwise (fun a b => key a ≤ key b) → l.IsChain (fun a b => key a ≠ key b) →
      l.Pairwise fun a b => key a < key b
  | [], _, _ => .nil
  | [a], _, _ => List.pairwise_singleton _ a
  | a :: b :: rest, hle, hne => by
    obtain ⟨ha, hle⟩ := List.pairwise_cons.1 hle
    obtain ⟨hab, hne⟩ := List.isChain_cons_cons.1 hne
    have hlt : key a < key b := lt_of_le_of_ne (ha b (by simp)) hab
    have hrest := pairwise_lt_of_isChain_ne hle hne
    refine List.pairwise_cons.2 ⟨fun c hc => ?_, hrest⟩
    rcases List.mem_cons.1 hc with rfl | hc
    · exact hlt
    · exact hlt.trans (List.rel_of_pairwise_cons hrest hc)

/-- A list that has been sorted is in strict order, if it has no equal neighbours. -/
theorem pairwise_lt_mergeSort {α κ : Type} [LinearOrder κ] {key : α → κ} {le : α → α → Bool} {l : List α}
    (hle : ∀ a b, le a b = true ↔ key a ≤ key b) (hne : (l.mergeSort le).IsChain fun a b => key a ≠ key b) :
    (l.mergeSort le).Pairwise fun a b => key a < key b := by
  refine pairwise_lt_of_isChain_ne ((List.pairwise_mergeSort ?_ ?_ l).imp fun {a b} => (hle a b).1) hne
  · simp only [hle]
    exact fun _ _ _ => le_trans
  · simp only [Bool.or_eq_true, hle]
    exact fun _ _ => le_total _ _

/-! ## Message types -/

theorem listedTwice?_eq_none_iff {rows : List MessageRow} :
    listedTwice? rows = none ↔ rows.IsChain fun a b => a.messageType ≠ b.messageType := by
  fun_induction listedTwice? rows with
  | case1 a b rest heq => simp [heq]
  | case2 a b rest hne ih => simp [hne, ih]
  | case3 rows h =>
    match rows with
    | [] => simp
    | [_] => simp
    | a :: b :: rest => exact absurd rfl (h a b rest)

/-- Message types are read in ascending order, each once. -/
theorem readMessages_pairwise {rows : List MessageRow} (h : readMessages path bytes = .ok rows) :
    rows.Pairwise fun a b => a.messageType < b.messageType := by
  unfold readMessages at h
  obtain ⟨found, -, h⟩ := Except.bind_eq_ok_iff.1 h
  simp only at h
  split at h
  · cases h
  next hnone =>
    cases h
    exact pairwise_lt_mergeSort (fun _ _ => decide_eq_true_iff) (listedTwice?_eq_none_iff.1 hnone)

/-! ## Fields and rules -/

/-- A field is read with its tag in capitals and without rules. -/
theorem FieldRow.exists_of_read {r : NumberedRow} {row : FieldRow} (h : FieldRow.read r = .ok row) :
    ∃ tag, r.require "Tag" = .ok tag ∧ row.definition.tag = Text.asciiUpper tag ∧ row.definition.rules = [] := by
  unfold FieldRow.read at h
  obtain ⟨messageType, -, h⟩ := Except.bind_eq_ok_iff.1 h
  obtain ⟨tag, htag, h⟩ := Except.bind_eq_ok_iff.1 h
  obtain ⟨sequence, -, h⟩ := Except.bind_eq_ok_iff.1 h
  split at h
  case h_2 => cases h
  obtain ⟨flag, -, h⟩ := Except.bind_eq_ok_iff.1 h
  split at h
  case h_2 => cases h
  obtain ⟨name, -, h⟩ := Except.bind_eq_ok_iff.1 h
  obtain ⟨formatSpec, -, h⟩ := Except.bind_eq_ok_iff.1 h
  obtain ⟨maxOccurrences, -, h⟩ := Except.bind_eq_ok_iff.1 h
  obtain rfl := Except.ok.inj h
  exact ⟨tag, htag, rfl, rfl⟩

theorem FieldRow.read_definition {r : NumberedRow} {row : FieldRow} (h : FieldRow.read r = .ok row) :
    Text.asciiUpper row.definition.tag = row.definition.tag ∧ row.definition.rules = [] := by
  obtain ⟨tag, -, htag, hrules⟩ := FieldRow.exists_of_read h
  exact ⟨by rw [htag, Text.asciiUpper_asciiUpper], hrules⟩

/-- A value that a column must have is trimmed and not empty. -/
theorem NumberedRow.exists_of_require {r : NumberedRow} {column value : String} (h : r.require column = .ok value) :
    ∃ cell, value = Text.trim cell ∧ Text.trim cell ≠ "" := by
  unfold require NumberedRow.get? Csv.Table.get? at h
  split at h
  case h_2 => cases h
  next found hfound =>
  cases h
  rw [Option.filter_eq_some_iff, Option.map_eq_some_iff] at hfound
  obtain ⟨⟨cell, -, rfl⟩, hne⟩ := hfound
  exact ⟨cell, rfl, by simpa using hne⟩

/-- A tag has no white space around it and is not empty. -/
theorem FieldRow.tag_of_read {r : NumberedRow} {row : FieldRow} (h : FieldRow.read r = .ok row) :
    Text.trim row.definition.tag = row.definition.tag ∧ row.definition.tag ≠ "" := by
  obtain ⟨_, hvalue, htag, -⟩ := FieldRow.exists_of_read h
  obtain ⟨cell, rfl, hne⟩ := NumberedRow.exists_of_require hvalue
  rw [htag]
  refine ⟨Text.trim_asciiUpper_trim cell, fun hempty => hne ?_⟩
  have hchars := congrArg String.toList hempty
  rw [← String.toList_inj]
  simpa [Text.asciiUpper] using hchars

/-- A rule makes sense by itself: a length has its bounds in order, and another field is named by a tag in capitals. -/
def FieldRule.Sound : FieldRule → Prop
  | .length min max => min ≤ max
  | .crossField cross => Text.asciiUpper cross.otherTag = cross.otherTag
  | .pattern _ | .date _ => True

theorem sound_of_readRule {r : NumberedRow} {kind : RuleKind} {rule : FieldRule} (h : readRule r kind = .ok rule) :
    rule.Sound := by
  cases kind with
  | length =>
    unfold readRule at h
    obtain ⟨min, -, h⟩ := Except.bind_eq_ok_iff.1 h
    obtain ⟨max, -, h⟩ := Except.bind_eq_ok_iff.1 h
    split at h
    case h_2 => cases h
    split at h
    · cases h
    next hle =>
      cases h
      exact Nat.not_lt.1 hle
  | pattern =>
    unfold readRule at h
    obtain ⟨text, -, h⟩ := Except.bind_eq_ok_iff.1 h
    split at h
    · cases h
      trivial
    · cases h
  | date =>
    unfold readRule at h
    obtain ⟨component, -, h⟩ := Except.bind_eq_ok_iff.1 h
    cases h
    trivial
  | crossField =>
    unfold readRule at h
    obtain ⟨relationName, -, h⟩ := Except.bind_eq_ok_iff.1 h
    obtain ⟨relation, -, h⟩ := Except.bind_eq_ok_iff.1 h
    obtain ⟨otherTag, -, h⟩ := Except.bind_eq_ok_iff.1 h
    cases h
    exact Text.asciiUpper_asciiUpper otherTag

/-- A rule is read with the tag of its field in capitals. -/
theorem RuleRow.read_rule {r : NumberedRow} {row : RuleRow} (h : RuleRow.read r = .ok row) :
    Text.asciiUpper row.tag = row.tag ∧ row.rule.Sound := by
  unfold RuleRow.read at h
  obtain ⟨messageType, -, h⟩ := Except.bind_eq_ok_iff.1 h
  obtain ⟨tag, -, h⟩ := Except.bind_eq_ok_iff.1 h
  obtain ⟨kindName, -, h⟩ := Except.bind_eq_ok_iff.1 h
  obtain ⟨kind, -, h⟩ := Except.bind_eq_ok_iff.1 h
  obtain ⟨rule, hrule, h⟩ := Except.bind_eq_ok_iff.1 h
  obtain rfl := Except.ok.inj h
  exact ⟨Text.asciiUpper_asciiUpper tag, sound_of_readRule hrule⟩

/-! ## Articles -/

theorem not_mem_of_readCategory {r : NumberedRow} {seen : List Category} {category : Category}
    (h : readCategory r seen = .ok category) : category ∉ seen := by
  unfold readCategory at h
  obtain ⟨name, -, h⟩ := Except.bind_eq_ok_iff.1 h
  obtain ⟨found, -, h⟩ := Except.bind_eq_ok_iff.1 h
  split at h
  · cases h
  next hnew =>
    cases h
    simpa using hnew

theorem nodup_of_readArticleRows {seen : List Category} (hseen : seen.Nodup) : ∀ {rows : List NumberedRow}
    {articles : List ClassificationRule}, readArticleRows seen rows = .ok articles →
      ((articles.map (·.category)).reverse ++ seen).Nodup
  | [], articles, h => by
    cases h
    exact hseen
  | r :: rest, articles, h => by
    unfold readArticleRows at h
    obtain ⟨category, hcategory, h⟩ := Except.bind_eq_ok_iff.1 h
    obtain ⟨severityName, -, h⟩ := Except.bind_eq_ok_iff.1 h
    obtain ⟨severity, -, h⟩ := Except.bind_eq_ok_iff.1 h
    obtain ⟨reference, -, h⟩ := Except.bind_eq_ok_iff.1 h
    obtain ⟨others, hothers, h⟩ := Except.bind_eq_ok_iff.1 h
    cases h
    simpa using nodup_of_readArticleRows (.cons (not_mem_of_readCategory hcategory) hseen) hothers

/-- No two articles that are read are of one category. -/
theorem readArticles_nodup {articles : List ClassificationRule} (h : readArticles path bytes = .ok articles) :
    (articles.map (·.category)).Nodup := by
  obtain ⟨rows, -, h⟩ := Except.bind_eq_ok_iff.1 h
  simpa using nodup_of_readArticleRows .nil h

end DocumentaryCredit

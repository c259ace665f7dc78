/-
Tables in another arrangement: the same rows in another order, under the same columns in another order
(`Csv.Table.Rearranged`). Rows are read by the names of their columns, so that each row is read as it was; what is read
of the whole table is then the same but for its order. The message types come out in the same order, sorted as they
are, and the rules of one field keep their order if their rows do.
-/
import DocumentaryCredit.Proofs.Agreement
import DocumentaryCredit.Proofs.Standards.Tables

namespace DocumentaryCredit

/-! ## Cells and their columns -/

/-- What stands at the place of a key, among distinct ones, is what stands opposite to it. -/
theorem idxOf?_bind_getElem?_eq_some_iff {κ α : Type} [DecidableEq κ] {k : κ} {a : α} : ∀ {keys : List κ} {l : List α},
    keys.Nodup → ((keys.idxOf? k).bind (l[·]?) = some a ↔ (k, a) ∈ keys.zip l)
  | [], l, _ => by simp
  | key :: keys, [], _ => by simp
  | key :: keys, b :: l, hnodup => by
    obtain ⟨hkey, hnodup⟩ := List.nodup_cons.1 hnodup
    have ih := idxOf?_bind_getElem?_eq_some_iff (k := k) (a := a) (l := l) hnodup
    rw [List.idxOf?_cons, List.zip_cons_cons, List.mem_cons, Prod.mk.injEq]
    by_cases heq : key = k
    · subst heq
      have hnot : (key, a) ∉ keys.zip l := fun hmem => hkey (List.of_mem_zip hmem).1
      simp [hnot, eq_comm]
    · rw [if_neg (by simpa using heq), ← ih]
      simp [Ne.symm heq, Option.bind_map]

namespace Csv.Table

/-- A table holds the rows of another one in the order `rows`, and its columns, each with its cells, in another order;
columns are moved only if their names are distinct. -/
structure Rearranged (t t' : Table) (rows : List Row) : Prop where
  perm : rows.Perm t.rows
  columns : t'.columns.Perm t.columns
  cells : List.Forall₂ (fun row row' => (t'.columns.zip row').Perm (t.columns.zip row)) rows t'.rows
  distinct : t.columns.Nodup ∨ t'.columns = t.columns ∧ t'.rows = rows

variable {t t' : Table} {rows : List Row}

theorem get?_eq_of_perm {row row' : Row} (hnodup : t.columns.Nodup)
    (hcolumns : t'.columns.Perm t.columns) (hcells : (t'.columns.zip row').Perm (t.columns.zip row)) (column : String) :
    t'.get? row' column = t.get? row column := by
  have hcell : (t'.columns.idxOf? column).bind (row'[·]?) = (t.columns.idxOf? column).bind (row[·]?) := by
    ext cell
    rw [idxOf?_bind_getElem?_eq_some_iff hnodup, idxOf?_bind_getElem?_eq_some_iff (hcolumns.nodup_iff.2 hnodup),
      hcells.mem_iff]
  unfold get?
  rw [hcell]

/-- Each row has the values that it had. -/
theorem Rearranged.forall₂_get? (h : t.Rearranged t' rows) :
    List.Forall₂ (fun row row' => ∀ column, t'.get? row' column = t.get? row column) rows t'.rows := by
  obtain hdistinct | ⟨hcolumns, hrows⟩ := h.distinct
  · exact h.cells.imp fun row row' hcells => get?_eq_of_perm hdistinct h.columns hcells
  · rw [hrows]
    exact List.forall₂_same.2 fun row _ column => by simp only [get?, hcolumns]

end Csv.Table

/-! ## Rows -/

namespace NumberedRow

/-- Rows have the same values, perhaps under other numbers and in tables of another arrangement. -/
def Same (r r' : NumberedRow) : Prop := ∀ column, r'.get? column = r.get? column

variable {r r' : NumberedRow}

theorem Same.require (h : r.Same r') (column : String) :
    Except.Agree Eq (r.require column) (r'.require column) := by
  unfold NumberedRow.require
  rw [h column]
  split
  · exact .ok rfl
  · exact .error

theorem Same.number? (h : r.Same r') (limit : Nat) (column : String) :
    Except.Agree Eq (r.number? limit column) (r'.number? limit column) := by
  unfold NumberedRow.number?
  rw [h column]
  split
  · exact .ok rfl
  split
  · exact .ok rfl
  · exact .error

theorem agree_named {α : Type} (r r' : NumberedRow) (fault : String → NameFault) (read : String → Except String α)
    (value : String) : Except.Agree Eq (r.named fault read value) (r'.named fault read value) := by
  unfold named
  split
  · exact .ok rfl
  · exact .error

end NumberedRow

/-- A reader of rows sees their values only. -/
def SeesValues {α : Type} (readRow : NumberedRow → Except StandardsError α) : Prop :=
  ∀ r r' : NumberedRow, r.Same r' → Except.Agree Eq (readRow r) (readRow r')

theorem MessageRow.seesValues_read : SeesValues MessageRow.read := by
  intro r r' h
  unfold MessageRow.read
  refine (h.require _).bind_eq fun messageType => (h.require _).bind_eq fun name => ?_
  rw [h "Version"]
  exact .ok rfl

theorem FieldRow.seesValues_read : SeesValues FieldRow.read := by
  intro r r' h
  unfold FieldRow.read
  refine (h.require _).bind_eq fun messageType => (h.require _).bind_eq fun tag => ?_
  refine (h.number? _ _).bind_eq fun found => ?_
  split
  case h_2 => exact .error
  refine (h.require _).bind_eq fun flag => ?_
  split
  case h_2 => exact .error
  refine (h.require _).bind_eq fun name => (h.require _).bind_eq fun formatSpec => (h.number? _ _).bind_eq fun max => ?_
  rw [h "Allowed Values"]
  exact .ok rfl

theorem seesValues_readRule (kind : RuleKind) : SeesValues fun r => readRule r kind := by
  intro r r' h
  cases kind with
  | length =>
    unfold readRule
    refine (h.number? _ _).bind_eq fun min => (h.number? _ _).bind_eq fun max => ?_
    split
    case h_2 => exact .error
    split
    · exact .error
    · exact .ok rfl
  | pattern =>
    unfold readRule
    refine (h.require _).bind_eq fun text => ?_
    split
    · exact .ok rfl
    · exact .error
  | date =>
    unfold readRule
    exact (h.number? _ _).bind_eq fun component => .ok rfl
  | crossField =>
    unfold readRule
    refine (h.require _).bind_eq fun name => (NumberedRow.agree_named r r' _ _ name).bind_eq fun relation => ?_
    exact (h.require _).bind_eq fun otherTag => .ok rfl

theorem RuleRow.seesValues_read : SeesValues RuleRow.read := by
  intro r r' h
  unfold RuleRow.read
  refine (h.require _).bind_eq fun messageType => (h.require _).bind_eq fun tag => (h.require _).bind_eq fun name => ?_
  refine (NumberedRow.agree_named r r' _ _ name).bind_eq fun kind => ?_
  exact (seesValues_readRule kind r r' h).bind_eq fun rule => .ok rfl

/-- The article of a row, whatever the categories of the other rows. -/
def readArticle (r : NumberedRow) : Except StandardsError ClassificationRule := do
  let category ← readCategory r []
  let severity ← r.named .severity (nameOr Severity.read?) (← r.require "Severity")
  let reference ← r.require "Rule Reference"
  return {
    category, reference, severity
    articleText := (r.get? "Article Text").getD ""
    recommendation := (r.get? "Recommendation").getD "" }

theorem seesValues_readArticle : SeesValues readArticle := by
  intro r r' h
  unfold readArticle readCategory
  refine Except.Agree.bind_eq ?_ fun category => ?_
  · refine (h.require _).bind_eq fun name => (NumberedRow.agree_named r r' _ _ name).bind_eq fun category => ?_
    exact .ok rfl
  refine (h.require _).bind_eq fun name => (NumberedRow.agree_named r r' _ _ name).bind_eq fun severity => ?_
  refine (h.require _).bind_eq fun reference => ?_
  rw [h "Article Text", h "Recommendation"]
  exact .ok rfl

/-! ## Lists of rows -/

/-- The elements that are made of a list, one of each. -/
theorem map_eq_map_some_iff {α β : Type} {f : α → Option β} : ∀ {l : List α} {bs : List β},
    l.map f = bs.map some ↔ (∀ a ∈ l, (f a).isSome) ∧ bs = l.filterMap f
  | [], bs => by cases bs <;> simp
  | a :: l, [] => by
    simp only [List.map_cons, List.map_nil, reduceCtorEq, List.forall_mem_cons, List.filterMap_cons, false_iff, not_and]
    rintro ⟨ha, -⟩
    obtain ⟨b, hb⟩ := Option.isSome_iff_exists.1 ha
    simp [hb]
  | a :: l, b :: bs => by
    rw [List.map_cons, List.map_cons, List.cons.injEq, map_eq_map_some_iff, List.forall_mem_cons, List.filterMap_cons]
    cases f a with
    | none => simp
    | some c =>
      simp only [Option.some.injEq, Option.isSome_some, true_and, List.cons.injEq, eq_comm (a := c)]
      exact and_left_comm

/-- What a row of a table is read as, if it can be read. -/
def Csv.Table.value? {α : Type} (t : Csv.Table) (readRow : NumberedRow → Except StandardsError α) (row : Csv.Row) :
    Option α := (readRow ⟨t, "", 0, row⟩).toOption

section

variable {α : Type} {readRow : NumberedRow → Except StandardsError α} {path : String} {bytes bytes' : List UInt8}
  {t t' : Csv.Table} {rows : List Csv.Row}

theorem SeesValues.value?_eq_some_iff (h : SeesValues readRow) {r : NumberedRow} {a : α} :
    r.table.value? readRow r.row = some a ↔ readRow r = .ok a := by
  rw [Csv.Table.value?, Except.toOption_eq_some_iff]
  exact (h ⟨r.table, "", 0, r.row⟩ r fun _ => rfl).eq_ok_iff

theorem SeesValues.readTable_eq_ok_iff (h : SeesValues readRow) (hread : Csv.read bytes = .ok t) {found : List α} :
    readTable path bytes readRow = .ok found ↔ t.rows.map (t.value? readRow) = found.map some := by
  rw [DocumentaryCredit.readTable_eq_ok_iff, ← List.forall₂_eq_eq_eq, List.forall₂_map_left_iff,
    List.forall₂_map_right_iff]
  nth_rewrite 1 [← List.zipIdx_map_fst 0 t.rows]
  rw [List.forall₂_map_left_iff]
  constructor
  · rintro ⟨table, htable, hrows⟩
    cases hread.symm.trans htable
    exact hrows.imp fun record a => h.value?_eq_some_iff.2
  · exact fun hrows => ⟨t, hread, hrows.imp fun record a => h.value?_eq_some_iff.1⟩

/-- **A table in another arrangement is read as it was**, but for the order of the rows. -/
theorem Csv.Table.Rearranged.agree_readTable (h : t.Rearranged t' rows) (hsees : SeesValues readRow)
    (hread : Csv.read bytes = .ok t) (hread' : Csv.read bytes' = .ok t') :
    Except.Agree (fun found found' => found = t.rows.filterMap (t.value? readRow) ∧
      found' = rows.filterMap (t.value? readRow)) (readTable path bytes readRow) (readTable path bytes' readRow) := by
  have hvalues : t'.rows.map (t'.value? readRow) = rows.map (t.value? readRow) := by
    refine List.forall₂_eq_eq_eq ▸ List.forall₂_map_left_iff.2 (List.forall₂_map_right_iff.2 ?_)
    refine (h.forall₂_get?.imp fun row row' hrow => ?_).flip
    exact Option.ext fun a => by
      simp only [value?, Except.toOption_eq_some_iff]
      exact (hsees ⟨t, "", 0, row⟩ ⟨t', "", 0, row'⟩ hrow).eq_ok_iff.symm
  have hreads : ∀ found, readTable path bytes' readRow = .ok found ↔
      (∀ row ∈ t.rows, (t.value? readRow row).isSome) ∧ found = rows.filterMap (t.value? readRow) := by
    intro found
    rw [hsees.readTable_eq_ok_iff hread', hvalues, map_eq_map_some_iff]
    simp only [h.perm.mem_iff]
  have hreads₀ : ∀ found, readTable path bytes readRow = .ok found ↔
      (∀ row ∈ t.rows, (t.value? readRow row).isSome) ∧ found = t.rows.filterMap (t.value? readRow) := by
    intro found
    rw [hsees.readTable_eq_ok_iff hread, map_eq_map_some_iff]
  refine .of_forall (fun found hfound => ?_) fun found hfound => ?_
  · obtain ⟨hall, rfl⟩ := (hreads₀ found).1 hfound
    exact ⟨_, (hreads _).2 ⟨hall, rfl⟩, rfl, rfl⟩
  · exact ⟨_, (hreads₀ _).2 ⟨((hreads found).1 hfound).1, rfl⟩⟩

end

/-! ## Sorting -/

section

variable {α κ : Type} [LinearOrder κ] {key : α → κ} {le : α → α → Bool} {l l' : List α}
  (hle : ∀ a b, le a b = true ↔ key a ≤ key b)

include hle

/-- Keys are distinct if no two of them are next to each other in order. -/
theorem nodup_of_isChain_mergeSort (hne : (l.mergeSort le).IsChain fun a b => key a ≠ key b) : (l.map key).Nodup := by
  have hsorted : ((l.mergeSort le).map key).Nodup := List.pairwise_map.2 ((pairwise_lt_mergeSort hle hne).imp ne_of_lt)
  exact ((List.mergeSort_perm l le).map key).nodup_iff.1 hsorted

/-- With distinct keys there is one order only. -/
theorem mergeSort_eq_of_perm (hperm : l'.Perm l) (hnodup : (l.map key).Nodup) : l'.mergeSort le = l.mergeSort le := by
  have hsorted : ∀ l : List α, (l.mergeSort le).Pairwise fun a b => key a ≤ key b := fun l =>
    (List.pairwise_mergeSort (by simpa only [hle] using fun _ _ _ => le_trans)
      (by simpa only [Bool.or_eq_true, hle] using fun _ _ => le_total _ _) l).imp fun {a b} => (hle a b).1
  have hsame : (l'.mergeSort le).Perm (l.mergeSort le) :=
    ((List.mergeSort_perm l' le).trans hperm).trans (List.mergeSort_perm l le).symm
  refine hsame.eq_of_pairwise (fun a b ha hb hab hba => ?_) (hsorted l') (hsorted l)
  have ha : a ∈ l := hperm.mem_iff.1 (List.mem_mergeSort.1 ha)
  exact List.inj_on_of_nodup_map hnodup ha (List.mem_mergeSort.1 hb) (le_antisymm hab hba)

end

/-! ## The tables of a rule book -/

/-- Whether a row names a field. -/
def Csv.Table.names (t : Csv.Table) (messageType tag : String) (row : Csv.Row) : Bool :=
  decide ((t.get? row "Message Type").map normalizeMessageType = some messageType ∧
    (t.get? row "Tag").map Text.asciiUpper = some tag)

/-- The bytes of the table of a role hold the same table in another arrangement; rows of rules keep their order among
those that name one field. -/
inductive TableMoved (role : String) (bytes : List UInt8) : List UInt8 → Prop where
  | same : TableMoved role bytes bytes
  | rearranged {bytes' : List UInt8} {t t' : Csv.Table} {rows : List Csv.Row} (hread : Csv.read bytes = .ok t)
      (hread' : Csv.read bytes' = .ok t') (h : t.Rearranged t' rows)
      (hrules : role = "rules" → ∀ messageType tag,
        rows.filter (t.names messageType tag) = t.rows.filter (t.names messageType tag)) : TableMoved role bytes bytes'

theorem filter_filterMap_of_forall {α β : Type} {f : α → Option β} {p : β → Bool} {q : α → Bool} (l : List α)
    (h : ∀ a b, f a = some b → q a = p b) : (l.filterMap f).filter p = (l.filter q).filterMap f := by
  rw [List.filter_filterMap, List.filterMap_filter]
  refine List.filterMap_congr fun a _ => ?_
  cases hf : f a with
  | none => simp
  | some b => simp [Option.filter_some, h a b hf]

/-- A row names the field that its rule is one of. -/
theorem RuleRow.names_of_value? {t : Csv.Table} {row : Csv.Row} {rule : RuleRow}
    (h : t.value? RuleRow.read row = some rule) (messageType tag : String) :
    t.names messageType (Text.asciiUpper tag) row =
      (decide (rule.messageType = messageType) && Text.equalIgnoringCase tag rule.tag) := by
  have hrequire : ∀ {r : NumberedRow} {column value : String}, r.require column = .ok value →
      r.get? column = some value := by
    intro r column value h
    unfold NumberedRow.require at h
    split at h
    · next found hfound => rw [hfound, Except.ok.inj h]
    · cases h
  replace h := Except.toOption_eq_some_iff.1 h
  unfold RuleRow.read at h
  obtain ⟨typeCell, htype, h⟩ := Except.bind_eq_ok_iff.1 h
  obtain ⟨tagCell, htag, h⟩ := Except.bind_eq_ok_iff.1 h
  obtain ⟨kindName, -, h⟩ := Except.bind_eq_ok_iff.1 h
  obtain ⟨kind, -, h⟩ := Except.bind_eq_ok_iff.1 h
  obtain ⟨rule, -, h⟩ := Except.bind_eq_ok_iff.1 h
  obtain rfl := Except.ok.inj h
  have htype : t.get? row "Message Type" = some typeCell := hrequire htype
  have htag : t.get? row "Tag" = some tagCell := hrequire htag
  rw [Csv.Table.names, htype, htag, Bool.eq_iff_iff, Bool.and_eq_true, Text.equalIgnoringCase_iff,
    Text.asciiUpper_asciiUpper]
  simp only [Option.map_some, Option.some.injEq, decide_eq_true_eq, @eq_comm _ (Text.asciiUpper tagCell)]

theorem readCategory_eq_ok_iff {r : NumberedRow} {seen : List Category} {category : Category} :
    readCategory r seen = .ok category ↔ readCategory r [] = .ok category ∧ category ∉ seen := by
  unfold readCategory
  simp only [Except.bind_eq_ok_iff, List.contains_nil, Bool.false_eq_true, if_false]
  constructor
  · rintro ⟨name, hname, found, hfound, h⟩
    split at h
    · cases h
    next hnew =>
      cases h
      exact ⟨⟨name, hname, category, hfound, rfl⟩, by simpa using hnew⟩
  · rintro ⟨⟨name, hname, found, hfound, h⟩, hnew⟩
    cases h
    exact ⟨name, hname, category, hfound, by simp [hnew, pure, Except.pure]⟩

/-- Articles are read row by row, if their categories are distinct. -/
theorem readArticleRows_eq_ok_iff : ∀ {rows : List NumberedRow} {seen : List Category}
    {articles : List ClassificationRule}, readArticleRows seen rows = .ok articles ↔
      rows.mapM readArticle = .ok articles ∧ (articles.map (·.category)).Nodup ∧ ∀ a ∈ articles, a.category ∉ seen
  | [], seen, articles => by
    simp only [readArticleRows, List.mapM_nil, pure, Except.pure, Except.ok.injEq]
    constructor
    · rintro rfl
      simp
    · exact fun h => h.1
  | r :: rows, seen, articles => by
    have hfirst : readArticleRows seen (r :: rows) = .ok articles ↔ ∃ a others, readArticle r = .ok a ∧
        a.category ∉ seen ∧ readArticleRows (a.category :: seen) rows = .ok others ∧ a :: others = articles := by
      unfold readArticle
      rw [readArticleRows]
      simp only [Except.bind_eq_ok_iff]
      constructor
      · rintro ⟨category, hcategory, name, hname, severity, hseverity, reference, hreference, others, hothers, h⟩
        obtain ⟨hcategory, hnew⟩ := readCategory_eq_ok_iff.1 hcategory
        exact ⟨_, others, ⟨category, hcategory, name, hname, severity, hseverity, reference, hreference, rfl⟩, hnew,
          hothers, Except.ok.inj h⟩
      · rintro ⟨a, others, ⟨category, hcategory, name, hname, severity, hseverity, reference, hreference, h⟩, hnew,
          hothers, rfl⟩
        obtain rfl := Except.ok.inj h
        exact ⟨category, readCategory_eq_ok_iff.2 ⟨hcategory, hnew⟩, name, hname, severity, hseverity, reference,
          hreference, others, hothers, rfl⟩
    rw [hfirst, List.mapM_cons]
    simp only [Except.bind_eq_ok_iff, readArticleRows_eq_ok_iff]
    constructor
    · rintro ⟨a, others, ha, hnew, ⟨hothers, hnodup, hnew'⟩, rfl⟩
      simp only [List.mem_cons, not_or] at hnew'
      refine ⟨⟨a, ha, others, hothers, rfl⟩, List.nodup_cons.2 ⟨fun hmem => ?_, hnodup⟩,
        List.forall_mem_cons.2 ⟨hnew, fun b hb => (hnew' b hb).2⟩⟩
      obtain ⟨b, hb, hcategory⟩ := List.mem_map.1 hmem
      exact (hnew' b hb).1 hcategory
    · rintro ⟨⟨a, ha, others, hothers, h⟩, hnodup, hnew⟩
      obtain rfl := Except.ok.inj h
      obtain ⟨hfresh, hnodup⟩ := List.nodup_cons.1 hnodup
      obtain ⟨hnew, hnew'⟩ := List.forall_mem_cons.1 hnew
      refine ⟨a, others, ha, hnew, ⟨hothers, hnodup, fun b hb => ?_⟩, rfl⟩
      rw [List.mem_cons, not_or]
      exact ⟨fun heq => hfresh (List.mem_map.2 ⟨b, hb, heq⟩), hnew' b hb⟩

/-- The rows of a table are read one by one once they are numbered. -/
theorem readTable_eq_bind {α : Type} (path : String) (bytes : List UInt8)
    (readRow : NumberedRow → Except StandardsError α) :
    readTable path bytes readRow = readTable path bytes .ok >>= fun rows => rows.mapM readRow := by
  unfold readTable
  cases Csv.read bytes with
  | error cause => rfl
  | ok table =>
    let number (p : Csv.Row × Nat) : NumberedRow := ⟨table, path, p.2 + 1, p.1⟩
    have hnumbered : table.rows.zipIdx.mapM (fun p => (.ok (number p) : Except StandardsError NumberedRow)) =
        .ok (table.rows.zipIdx.map number) := List.mapM_pure
    calc table.rows.zipIdx.mapM (fun p => readRow (number p))
      _ = (table.rows.zipIdx.map number).mapM readRow := List.mapM_map.symm
      _ = table.rows.zipIdx.mapM (fun p => .ok (number p)) >>= fun rows => rows.mapM readRow := by
        rw [hnumbered]
        rfl

theorem readArticles_eq_ok_iff {path : String} {bytes : List UInt8} {articles : List ClassificationRule} :
    readArticles path bytes = .ok articles ↔
      readTable path bytes readArticle = .ok articles ∧ (articles.map (·.category)).Nodup := by
  rw [readArticles, readTable_eq_bind path bytes readArticle]
  cases readTable path bytes .ok with
  | error cause => simp [bind, Except.bind]
  | ok rows =>
    refine readArticleRows_eq_ok_iff.trans (and_congr Iff.rfl ?_)
    exact and_iff_left fun _ _ => List.not_mem_nil

namespace TableMoved

variable {role path : String} {bytes bytes' : List UInt8}

theorem agree_readTable {α : Type} {readRow : NumberedRow → Except StandardsError α} (h : TableMoved role bytes bytes')
    (hsees : SeesValues readRow) :
    Except.Agree (fun found found' => found'.Perm found) (readTable path bytes readRow)
      (readTable path bytes' readRow) := by
  cases h with
  | same => exact .refl .refl _
  | rearranged hread hread' h =>
    refine (h.agree_readTable hsees hread hread').imp ?_
    rintro _ _ ⟨rfl, rfl⟩
    exact h.perm.filterMap _

/-- The message types come out in their order. -/
theorem agree_readMessages (h : TableMoved role bytes bytes') :
    Except.Agree Eq (readMessages path bytes) (readMessages path bytes') := by
  unfold readMessages
  refine (h.agree_readTable MessageRow.seesValues_read).bind fun rows rows' hperm => ?_
  have hle : ∀ a b : MessageRow, decide (a.messageType ≤ b.messageType) = true ↔ a.messageType ≤ b.messageType :=
    fun _ _ => decide_eq_true_iff
  simp only
  by_cases hnodup : (rows.map (·.messageType)).Nodup
  · rw [mergeSort_eq_of_perm hle hperm hnodup]
    exact .refl (fun _ => rfl) _
  · split
    · split
      · exact .error
      next hnone =>
        have hnodup' := nodup_of_isChain_mergeSort hle (listedTwice?_eq_none_iff.1 hnone)
        exact absurd ((hperm.map _).nodup_iff.1 hnodup') hnodup
    next hnone => exact absurd (nodup_of_isChain_mergeSort hle (listedTwice?_eq_none_iff.1 hnone)) hnodup

theorem agree_readFields (h : TableMoved role bytes bytes') :
    Except.Agree (fun fields fields' => fields'.Perm fields) (readFields path bytes) (readFields path bytes') :=
  h.agree_readTable FieldRow.seesValues_read

/-- The rules of each field stay in their order. -/
theorem agree_readRules (h : TableMoved "rules" bytes bytes') :
    Except.Agree (fun rules rules' => rules'.Perm rules ∧ ∀ messageType tag,
        rules'.filter (fun r => r.messageType = messageType && Text.equalIgnoringCase tag r.tag) =
          rules.filter fun r => r.messageType = messageType && Text.equalIgnoringCase tag r.tag)
      (readRules path bytes) (readRules path bytes') := by
  cases h with
  | same => exact .refl (fun _ => ⟨.refl _, fun _ _ => rfl⟩) _
  | @rearranged _ table table' rows hread hread' h hrules =>
    refine (h.agree_readTable RuleRow.seesValues_read hread hread').imp ?_
    rintro _ _ ⟨rfl, rfl⟩
    refine ⟨h.perm.filterMap _, fun messageType tag => ?_⟩
    have hnames : ∀ row rule, table.value? RuleRow.read row = some rule →
        table.names messageType (Text.asciiUpper tag) row =
          (decide (rule.messageType = messageType) && Text.equalIgnoringCase tag rule.tag) := fun _ _ hvalue =>
      RuleRow.names_of_value? hvalue messageType tag
    rw [filter_filterMap_of_forall _ hnames, filter_filterMap_of_forall _ hnames, hrules rfl]

/-- The articles are the same, each of a category of its own. -/
theorem agree_readArticles (h : TableMoved role bytes bytes') :
    Except.Agree (fun articles articles' => articles'.Perm articles ∧ (articles.map (·.category)).Nodup)
      (readArticles path bytes) (readArticles path bytes') := by
  have hrows : Except.Agree _ (readTable path bytes readArticle) (readTable path bytes' readArticle) :=
    h.agree_readTable seesValues_readArticle
  refine .of_forall (fun articles harticles => ?_) fun articles' harticles => ?_
  · obtain ⟨hread, hnodup⟩ := readArticles_eq_ok_iff.1 harticles
    obtain ⟨articles', hread', hperm⟩ := hrows.exists_of_ok hread
    exact ⟨articles', readArticles_eq_ok_iff.2 ⟨hread', (hperm.map _).nodup_iff.2 hnodup⟩, hperm, hnodup⟩
  · obtain ⟨hread', hnodup⟩ := readArticles_eq_ok_iff.1 harticles
    obtain ⟨articles, hread⟩ := hrows.exists_iff.2 ⟨articles', hread'⟩
    have hperm := hrows.rel_of_ok hread hread'
    exact ⟨articles, readArticles_eq_ok_iff.2 ⟨hread, (hperm.map _).nodup_iff.1 hnodup⟩⟩

end TableMoved

end DocumentaryCredit

/-
Tables that are kept row by row, as the files they stand for. The file of a table is read as the table stands, row after
row and value after value, if its cells are plain. Whether they are, and what hash the file has, is a matter of the
characters of the cells, which the kernel computes with while it is slow to take texts apart.
-/
import DocumentaryCredit.Proofs.Csv
import DocumentaryCredit.Proofs.Sha256
import DocumentaryCredit.Standards.Bundled
import DocumentaryCredit.Standards.RuleBook

namespace DocumentaryCredit.Bundled

open Csv (isPlain)

/-! ## Tables as files -/

/-- The bytes of a table's file. -/
theorem toBytes_tableText : ∀ rows : List (List String), Text.toBytes (tableText rows) = Csv.tableBytes rows
  | [] => by simp [tableText, Csv.tableBytes, Text.toBytes_eq]
  | row :: rows => by
    have hcells : (row.map fun cell => "\"" ++ cell ++ "\"").map Text.toBytes = (row.map Text.toBytes).map Csv.quoted := by
      rw [List.map_map, List.map_map]
      refine List.map_congr_left fun cell _ => ?_
      simp only [Function.comp_apply, Text.toBytes_append]
      rfl
    have hrow : Text.toBytes (",".intercalate (row.map fun cell => "\"" ++ cell ++ "\"") ++ "\n") =
        Csv.written (row.map Text.toBytes) := by
      rw [Text.toBytes_append, Text.toBytes_intercalate, hcells]
      rfl
    have hrest := toBytes_tableText rows
    rw [tableText] at hrest ⊢
    rw [List.map_cons, String.join_cons, Text.toBytes_append, hrow, hrest]
    rfl

/-! ## Characters -/

/-- Texts with their characters, by which the kernel computes better than by the texts. -/
abbrev Spelled (texts : List String) (characters : List (List Char)) : Prop :=
  List.Forall₂ (fun text characters => text = String.ofList characters) texts characters

theorem Spelled.map_eq {texts : List String} {characters : List (List Char)} (h : Spelled texts characters) :
    texts.map String.toList = characters := by
  induction h with
  | nil => rfl
  | cons htext _ ih => rw [List.map_cons, ih, htext, String.toList_ofList]

theorem map_map_eq_of_spelled {table : List (List String)} {cells : List (List (List Char))}
    (h : List.Forall₂ Spelled table cells) : table.map (·.map String.toList) = cells := by
  induction h with
  | nil => rfl
  | cons hrow _ ih => rw [List.map_cons, ih, hrow.map_eq]

/-- The characters of a table are plain, and none of its rows is longer or shorter than its header. -/
def isPlainTable : List (List (List Char)) → Bool
  | [] => false
  | header :: rows => !header.isEmpty && (header :: rows).all fun row => row.length == header.length && row.all isPlain

/-- The bytes of a table of plain characters. -/
def plainBytes (cells : List (List (List Char))) : List UInt8 :=
  (cells.map (·.map (·.map fun c => UInt8.ofNat c.toNat))).flatMap Csv.written

/-- A table is read as it stands from a file that has a hash. -/
structure Filed (table : List (List String)) (sha256 : String) : Prop where
  header_ne : table.headD [] ≠ []
  plain : Csv.IsPlain (table.headD []).length table
  hash : Sha256.hexHash (Text.toBytes (tableText table)) = sha256

theorem Filed.of_spelled {table : List (List String)} {cells : List (List (List Char))} {sha256 : String}
    (h : List.Forall₂ Spelled table cells) (hplain : isPlainTable cells = true)
    (hhash : Sha256.hexHash (plainBytes cells) = sha256) : Filed table sha256 := by
  subst hhash
  obtain rfl := map_map_eq_of_spelled h
  cases table with
  | nil => cases hplain
  | cons header rows =>
    simp only [isPlainTable, List.map_cons, Bool.and_eq_true, Bool.not_eq_true', List.isEmpty_eq_false_iff, ne_eq,
      List.map_eq_nil_iff] at hplain
    obtain ⟨hheader, hrows⟩ := hplain
    have hplain : Csv.IsPlain header.length (header :: rows) := by
      rw [← List.map_cons, List.all_map] at hrows
      simpa [Csv.IsPlain] using hrows
    refine ⟨hheader, hplain, ?_⟩
    have hbytes : (header :: rows).map (·.map Text.toBytes) =
        ((header :: rows).map (·.map String.toList)).map (·.map (·.map fun c => UInt8.ofNat c.toNat)) := by
      simp only [List.map_map]
      refine List.map_congr_left fun row hrow => ?_
      rw [Function.comp_apply, List.map_map]
      exact List.map_congr_left fun cell hcell => Csv.toBytes_of_isPlain ((hplain row hrow).2 cell hcell)
    rw [toBytes_tableText, Csv.tableBytes, hbytes, plainBytes]

/-! ## Rows -/

section Filed

variable {α : Type} {table : List (List String)} {sha256 : String}

theorem Filed.readTable_eq (h : Filed table sha256) (path : String)
    (readRow : NumberedRow → Except StandardsError α) : readTable path (Text.toBytes (tableText table)) readRow =
      table.tail.zipIdx.mapM fun (row, index) => readRow ⟨⟨table.headD [], table.tail⟩, path, index + 1, row⟩ := by
  obtain ⟨hne, hplain, -⟩ := h
  cases table with
  | nil => exact absurd rfl hne
  | cons header rows =>
    have hread : Csv.read (Csv.tableBytes (header :: rows)) = .ok ⟨header, rows⟩ := Csv.read_tableBytes hne hplain
    rw [readTable, toBytes_tableText, hread]
    rfl

/-- Rows are read as their cells are, if that is how each of them is read. -/
theorem Filed.readTable_eq_filterMap (h : Filed table sha256) (path : String)
    {readRow : NumberedRow → Except StandardsError α} {rowOf? : List String → Option α}
    (hread : ∀ {r : NumberedRow} {a : α}, r.table.columns = table.headD [] →
      (∀ cell ∈ r.row, isPlain cell.toList = true) → rowOf? r.row = some a → readRow r = .ok a)
    (hrows : ∀ row ∈ table.tail, (rowOf? row).isSome) :
    readTable path (Text.toBytes (tableText table)) readRow = .ok (table.tail.filterMap rowOf?) := by
  have hplain : ∀ row ∈ table.tail, ∀ cell ∈ row, isPlain cell.toList = true := fun row hrow =>
    (h.plain row (List.mem_of_mem_tail hrow)).2
  rw [h.readTable_eq, Except.mapM_eq_ok_iff]
  generalize 0 = first
  generalize hcolumns : (⟨table.headD [], table.tail⟩ : Csv.Table) = t
  replace hcolumns : t.columns = table.headD [] := hcolumns ▸ rfl
  generalize table.tail = rows at hplain hrows ⊢
  induction rows generalizing first with
  | nil => exact .nil
  | cons row rows ih =>
    obtain ⟨hrow, hplain⟩ := List.forall_mem_cons.1 hplain
    obtain ⟨hsome, hrows⟩ := List.forall_mem_cons.1 hrows
    obtain ⟨a, ha⟩ := Option.isSome_iff_exists.1 hsome
    rw [List.filterMap_cons_some ha]
    exact .cons (hread hcolumns hrow ha) (ih _ hplain hrows)

end Filed

section Row

variable {r : NumberedRow} {column : String}

theorem require_eq_ok {value : String} (h : r.get? column = some value) : r.require column = .ok value := by
  rw [NumberedRow.require, h]

theorem number?_eq_ok {limit : Nat} {count : Option Nat} (h : (r.get? column).mapM (Text.readNat? limit) = some count) :
    r.number? limit column = .ok count := by
  unfold NumberedRow.number?
  cases hvalue : r.get? column with
  | none =>
    rw [hvalue] at h
    obtain rfl := Option.some.inj h
    rfl
  | some value =>
    rw [hvalue] at h
    obtain ⟨n, hn, rfl⟩ := Option.map_eq_some_iff.1 h
    simp only [hn]

end Row

end DocumentaryCredit.Bundled

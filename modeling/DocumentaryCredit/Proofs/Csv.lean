/-
Tables that read back. A table is written with all its fields in quotes and a line feed behind each record, and the
machine that reads it goes from the start of a record to the start of the next one with the fields in between collected.
Where no field has a quote, and all of them are plain ASCII, the table is read as it was written.
-/
import DocumentaryCredit.Csv
import DocumentaryCredit.Proofs.Computation
import DocumentaryCredit.Proofs.Text

namespace DocumentaryCredit.Csv

open Scan (comma quote lineFeed)

/-! ## Records -/

/-- A field in quotes. -/
def quoted (field : List UInt8) : List UInt8 := quote :: (field ++ [quote])

/-- A record as it is written. -/
def written (fields : List (List UInt8)) : List UInt8 := [comma].intercalate (fields.map quoted) ++ [lineFeed]

namespace Scan

/-- What a reading has collected, apart from where it stands. -/
structure Has (s : Scan) (mode : Mode) (field : List UInt8) (fields : List (List UInt8))
    (records : List (List (List UInt8))) : Prop where
  mode : s.mode = mode
  field : s.field = field
  fields : s.fields = fields
  records : s.records.map (·.fields) = records

variable {s : Scan} {mode : Mode} {b : UInt8} {field : List UInt8} {fields : List (List UInt8)}
  {records : List (List (List UInt8))}

theorem Has.step_open (h : s.Has mode field fields records) (hmode : mode = .recordStart ∨ mode = .fieldStart) :
    (s.step quote).Has .inQuotes field fields records := by
  obtain ⟨rfl, rfl, rfl, rfl⟩ := h
  rcases hmode with hmode | hmode <;> simp only [step, hmode] <;> exact ⟨rfl, rfl, rfl, rfl⟩

theorem Has.step_copy (h : s.Has .inQuotes field fields records) (hb : b ≠ quote) :
    (s.step b).Has .inQuotes (b :: field) fields records := by
  obtain ⟨hmode, rfl, rfl, rfl⟩ := h
  simp only [step, hmode, if_neg hb]
  exact ⟨rfl, rfl, rfl, rfl⟩

theorem Has.step_close (h : s.Has .inQuotes field fields records) :
    (s.step quote).Has .afterQuote field fields records := by
  obtain ⟨hmode, rfl, rfl, rfl⟩ := h
  simp only [step, hmode, if_true]
  exact ⟨rfl, rfl, rfl, rfl⟩

theorem Has.step_comma (h : s.Has .afterQuote field fields records) :
    (s.step comma).Has .fieldStart [] (field.reverse :: fields) records := by
  obtain ⟨hmode, rfl, rfl, rfl⟩ := h
  simp only [step, hmode]
  exact ⟨rfl, rfl, rfl, rfl⟩

theorem Has.step_lineFeed (h : s.Has .afterQuote field fields records) :
    (s.step lineFeed).Has .recordStart [] [] ((field.reverse :: fields).reverse :: records) := by
  obtain ⟨hmode, rfl, rfl, rfl⟩ := h
  simp only [step, hmode]
  exact ⟨rfl, rfl, rfl, rfl⟩

/-- The bytes of a field are copied. -/
theorem Has.foldl_copy {more : List UInt8} (h : s.Has .inQuotes field fields records) (hmore : quote ∉ more) :
    (more.foldl step s).Has .inQuotes (more.reverse ++ field) fields records := by
  induction more generalizing s field with
  | nil => exact h
  | cons b more ih =>
    obtain ⟨hb, hmore⟩ : quote ≠ b ∧ quote ∉ more := by simpa using hmore
    have hrest := ih (h.step_copy hb.symm) hmore
    simpa using hrest

theorem Has.foldl_quoted {more : List UInt8} (h : s.Has mode [] fields records)
    (hmode : mode = .recordStart ∨ mode = .fieldStart) (hmore : quote ∉ more) :
    ((quoted more).foldl step s).Has .afterQuote more.reverse fields records := by
  have hcopied := (h.step_open hmode).foldl_copy hmore
  rw [List.append_nil] at hcopied
  rw [quoted, List.foldl_cons, List.foldl_append]
  exact hcopied.step_close

/-- A record is read to its end. -/
theorem Has.foldl_written {first : List UInt8} {rest : List (List UInt8)} (h : s.Has mode [] fields records)
    (hmode : mode = .recordStart ∨ mode = .fieldStart) (hfirst : quote ∉ first) (hrest : ∀ f ∈ rest, quote ∉ f) :
    ((written (first :: rest)).foldl step s).Has .recordStart [] [] ((fields.reverse ++ first :: rest) :: records) := by
  induction rest generalizing s mode first fields with
  | nil =>
    have hend := (h.foldl_quoted hmode hfirst).step_lineFeed
    simpa [written] using hend
  | cons next rest ih =>
    obtain ⟨hnext, hrest⟩ := List.forall_mem_cons.1 hrest
    have hend := ih ((h.foldl_quoted hmode hfirst).step_comma) (.inr rfl) hnext hrest
    simpa [written, List.intercalate_cons_cons] using hend

/-- Records are read one after another. -/
theorem Has.foldl_flatMap {rows : List (List (List UInt8))} (h : s.Has .recordStart [] [] records)
    (hrows : ∀ row ∈ rows, row ≠ [] ∧ ∀ f ∈ row, quote ∉ f) :
    ((rows.flatMap written).foldl step s).Has .recordStart [] [] (rows.reverse ++ records) := by
  induction rows generalizing s records with
  | nil => exact h
  | cons row rows ih =>
    obtain ⟨⟨hne, hrow⟩, htail⟩ := List.forall_mem_cons.1 hrows
    obtain ⟨first, rest, rfl⟩ := List.exists_cons_of_ne_nil hne
    obtain ⟨hfirst, hrest⟩ := List.forall_mem_cons.1 hrow
    have hend := ih (h.foldl_written (.inl rfl) hfirst hrest) htail
    simpa [List.flatMap_cons, List.foldl_append] using hend

end Scan

theorem map_fields_records {rows : List (List (List UInt8))} (hrows : ∀ row ∈ rows, row ≠ [] ∧ ∀ f ∈ row, quote ∉ f) :
    (records (rows.flatMap written)).map (·.fields) = rows := by
  have hscan : (Scan.mk .recordStart 1 0 (1, 0) [] [] []).Has .recordStart [] [] [] := ⟨rfl, rfl, rfl, rfl⟩
  obtain ⟨hmode, -, -, hrecords⟩ := hscan.foldl_flatMap hrows
  -- What is written starts with a quote and not with a byte order mark.
  have hplain : records (rows.flatMap written) = ((rows.flatMap written).foldl Scan.step {}).finish := by
    unfold records
    split
    · next heq =>
      cases rows with
      | nil => cases heq
      | cons row rows =>
        obtain ⟨first, rest, hcons⟩ := List.exists_cons_of_ne_nil (hrows row (by simp)).1
        rw [hcons] at heq
        cases rest <;> simp [written, quoted, quote, List.intercalate_cons_cons] at heq
    · rfl
  rw [hplain, Scan.finish, hmode]
  simpa using congrArg List.reverse hrecords

/-! ## Tables -/

/-- Whether a cell is plain: characters of ASCII without a quote, and no white space at either end. -/
def isPlain (cell : List Char) : Bool :=
  (cell.all fun c => decide (c.toNat < 127) && c != '"') && cell.head?.all (32 < ·.toNat) &&
    cell.getLast?.all (32 < ·.toNat)

section Plain

variable {cell : String} (h : isPlain cell.toList = true)

include h

theorem of_isPlain : (∀ c ∈ cell.toList, c.toNat < 127) ∧ '"' ∉ cell.toList ∧ (∀ c ∈ cell.toList.head?, 32 < c.toNat) ∧
    ∀ c ∈ cell.toList.getLast?, 32 < c.toNat := by
  simp only [isPlain, Bool.and_eq_true, List.all_eq_true, Option.all_eq_true, decide_eq_true_eq, bne_iff_ne, ne_eq] at h
  obtain ⟨⟨hall, hfirst⟩, hlast⟩ := h
  exact ⟨fun c hc => (hall c hc).1, fun hmem => (hall _ hmem).2 rfl, hfirst, hlast⟩

theorem trim_eq_self : Text.trim cell = cell := by
  obtain ⟨hascii, -, hfirst, hlast⟩ := of_isPlain h
  rw [Text.trim, Text.trimChars_eq_self, String.ofList_toList]
  · exact fun c hc => Text.isBlankChar_eq_false (hfirst c hc) (Nat.le_of_lt_succ (hascii c (List.mem_of_mem_head? hc)))
  · exact fun c hc => Text.isBlankChar_eq_false (hlast c hc) (Nat.le_of_lt_succ (hascii c (List.mem_of_mem_getLast? hc)))

theorem columnName_eq_self : columnName cell = cell := by
  obtain ⟨hascii, -⟩ := of_isPlain h
  have hmark : ∀ c ∈ cell.toList, (c.toNat == 0xFEFF) = false := fun c hc => by
    have := hascii c hc
    simp
    omega
  rw [columnName, trim_eq_self h, Text.trimChars_eq_self, String.ofList_toList]
  · exact fun c hc => hmark c (List.mem_of_mem_head? hc)
  · exact fun c hc => hmark c (List.mem_of_mem_getLast? hc)

theorem toBytes_of_isPlain : Text.toBytes cell = cell.toList.map fun c => UInt8.ofNat c.toNat :=
  Text.toBytes_eq_map fun c hc => ((of_isPlain h).1 c hc).trans (by decide)

theorem toNat_lt_of_mem_toBytes {b : UInt8} (hb : b ∈ Text.toBytes cell) : b.toNat < 127 ∧ b ≠ quote := by
  obtain ⟨hascii, hquote, -⟩ := of_isPlain h
  rw [toBytes_of_isPlain h] at hb
  obtain ⟨c, hc, rfl⟩ := List.mem_map.1 hb
  have hnumber : (UInt8.ofNat c.toNat).toNat = c.toNat := by
    rw [UInt8.toNat_ofNat', Nat.mod_eq_of_lt ((hascii c hc).trans (by decide))]
  refine ⟨by rw [hnumber]; exact hascii c hc, fun heq => hquote ?_⟩
  rw [heq] at hnumber
  exact (Char.toNat_inj.1 hnumber : '"' = c) ▸ hc

end Plain

theorem malformedFrom_eq_none {position : Nat} {bytes : List UInt8} (h : ∀ b ∈ bytes, b.toNat < 127) :
    Text.malformedFrom position 0 bytes = none := by
  induction bytes generalizing position with
  | nil => rfl
  | cons b bytes ih =>
    obtain ⟨hb, hbytes⟩ := List.forall_mem_cons.1 h
    have hlength : Text.characterLength? (b :: bytes) = some 1 := by
      simp [Text.characterLength?, Text.byteIn, hb.le]
    simp only [Text.malformedFrom, hlength]
    exact ih hbytes

/-- Plain cells in the right number are read as the texts that they were written for. -/
theorem decode_eq_ok {raw : RawRecord} {cells : List String} (record : Nat)
    (hraw : raw.fields = cells.map Text.toBytes) (hplain : ∀ cell ∈ cells, isPlain cell.toList = true) :
    decode cells.length raw record = .ok cells := by
  have hmalformed : malformedField? raw.fields = none := by
    refine List.findSome?_eq_none_iff.2 fun ⟨field, index⟩ hmem => ?_
    have hfield : field ∈ cells.map Text.toBytes := hraw ▸ (List.mem_zipIdx_iff_getElem?.1 hmem |> List.mem_of_getElem?)
    obtain ⟨cell, hcell, rfl⟩ := List.mem_map.1 hfield
    have hascii : ∀ b ∈ Text.toBytes cell, b.toNat < 127 := fun b hb => (toNat_lt_of_mem_toBytes (hplain cell hcell) hb).1
    simp [Text.malformedAt?, malformedFrom_eq_none hascii]
  have htexts : (raw.fields.map fun field => (Text.ofBytes? field).getD "") = cells := by
    rw [hraw, List.map_map]
    refine (List.map_congr_left fun cell _ => ?_).trans (List.map_id _)
    simp [Text.ofBytes?_toBytes]
  simp only [decode, hmalformed, htexts]
  simp [hraw]

/-- A table is plain: its rows have a number of plain cells each. -/
def IsPlain (width : Nat) (rows : List (List String)) : Prop :=
  ∀ row ∈ rows, row.length = width ∧ ∀ cell ∈ row, isPlain cell.toList = true

theorem forall₂_decode {width : Nat} : ∀ {raws : List RawRecord} {rows : List (List String)} {index : Nat},
    raws.map (·.fields) = rows.map (·.map Text.toBytes) → IsPlain width rows →
      List.Forall₂ (fun raw row => decode width raw.1 (raw.2 + 1) = .ok row) (raws.zipIdx index) rows
  | [], [], _, _, _ => .nil
  | [], row :: rows, _, h, _ => by cases h
  | raw :: raws, [], _, h, _ => by cases h
  | raw :: raws, row :: rows, index, h, hplain => by
    obtain ⟨hraw, hraws⟩ := List.cons.inj h
    obtain ⟨⟨rfl, hrow⟩, hrows⟩ := List.forall_mem_cons.1 hplain
    exact .cons (decode_eq_ok (index + 1) hraw hrow) (forall₂_decode hraws hrows)

/-- The bytes of a table: each of its rows as a record. -/
def tableBytes (rows : List (List String)) : List UInt8 := (rows.map (·.map Text.toBytes)).flatMap written

/-- **A plain table reads back.** -/
theorem read_tableBytes {header : List String} {rows : List (List String)} (hne : header ≠ [])
    (hplain : IsPlain header.length (header :: rows)) : read (tableBytes (header :: rows)) = .ok ⟨header, rows⟩ := by
  obtain ⟨⟨-, hheader⟩, hrows⟩ := List.forall_mem_cons.1 hplain
  have hrecords : (records (tableBytes (header :: rows))).map (·.fields) = (header :: rows).map (·.map Text.toBytes) := by
    refine map_fields_records fun fields hfields => ?_
    obtain ⟨row, hrow, rfl⟩ := List.mem_map.1 hfields
    obtain ⟨hlength, hcells⟩ := hplain row hrow
    constructor
    · rw [← List.length_pos_iff, List.length_map, hlength, List.length_pos_iff]
      exact hne
    · intro field hfield
      obtain ⟨cell, hcell, rfl⟩ := List.mem_map.1 hfield
      exact fun hquote => (toNat_lt_of_mem_toBytes (hcells cell hcell) hquote).2 rfl
  have hcolumns : header.map columnName = header :=
    (List.map_congr_left fun cell hcell => columnName_eq_self (hheader cell hcell)).trans (List.map_id _)
  unfold read
  cases hraws : records (tableBytes (header :: rows)) with
  | nil => simp [hraws] at hrecords
  | cons raw raws =>
    rw [hraws, List.map_cons, List.map_cons] at hrecords
    obtain ⟨hraw, hraws⟩ := List.cons.inj hrecords
    have hwidth : raw.fields.length = header.length := by rw [hraw, List.length_map]
    simp only [hwidth]
    refine Except.bind_eq_ok_iff.2 ⟨header, decode_eq_ok 0 hraw hheader, Except.bind_eq_ok_iff.2 ⟨rows, ?_, ?_⟩⟩
    · exact Except.mapM_eq_ok_iff.2 (forall₂_decode hraws hrows)
    · simp only [hcolumns, pure, Except.pure]

/-! ## Values -/

/-- A cell, if there is anything in it. -/
def given? (cell : String) : Option String := (some cell).filter (!·.isEmpty)

/-- The values of a plain row are what its cells hold. -/
theorem get?_of_isPlain (t : Table) {row : Row} (h : ∀ cell ∈ row, isPlain cell.toList = true) (column : String) :
    t.get? row column = ((t.columns.idxOf? column).bind (row[·]?)).bind given? := by
  unfold Table.get?
  cases hcell : (t.columns.idxOf? column).bind (row[·]?) with
  | none => rfl
  | some cell =>
    obtain ⟨index, -, hindex⟩ := Option.bind_eq_some_iff.1 hcell
    rw [Option.map_some, trim_eq_self (h cell (List.mem_of_getElem? hindex))]
    rfl

end DocumentaryCredit.Csv

/-
Tables of comma-separated values. Fields may stand in quotes, within which a quote is written twice; records
end with LF, CR or both, and empty lines are none. The first record is the header, and every record has as many
fields as it.

The bytes are read one after another by a small machine. A record is found at the place where the machine stood
when the record before it was complete, which is what the errors report.
-/
import DocumentaryCredit.Text.Utf8
import DocumentaryCredit.Text.Blank

namespace DocumentaryCredit.Csv

/-! ## Records -/

/-- A record as bytes, with the line and the byte at which its reading began. -/
structure RawRecord where
  line : Nat
  byte : Nat
  fields : List (List UInt8)
deriving DecidableEq

/-- What has been read of the current record. -/
inductive Mode where
  /-- Nothing. -/
  | recordStart
  /-- Nothing, but the carriage return that ended the record before it. -/
  | afterReturn
  /-- Whole fields, with a comma behind them. -/
  | fieldStart
  | inField
  | inQuotes
  /-- A field in quotes and a quote, which closes it or is the first of two. -/
  | afterQuote
deriving DecidableEq

/-- A reading that has got to some byte. Everything that is collected is kept in reverse order. -/
structure Scan where
  mode : Mode := .recordStart
  /-- The current line, counted from one. -/
  line : Nat := 1
  /-- The number of bytes read. -/
  byte : Nat := 0
  /-- The line and the byte at which the reading of the current record began. -/
  start : Nat × Nat := (1, 0)
  field : List UInt8 := []
  fields : List (List UInt8) := []
  records : List RawRecord := []

namespace Scan

/-- Completes the current field. -/
def endField (s : Scan) : Scan := { s with mode := .fieldStart, field := [], fields := s.field.reverse :: s.fields }

/-- Completes the current record with its last field. -/
def endRecord (s : Scan) (mode : Mode) : Scan :=
  let s := s.endField
  { s with
    mode
    start := (s.line, s.byte)
    fields := []
    records := ⟨s.start.1, s.start.2, s.fields.reverse⟩ :: s.records }

/-- Adds a byte to the current field. -/
def copy (s : Scan) (b : UInt8) (mode : Mode) : Scan := { s with mode, field := b :: s.field }

/-- The comma that separates fields. -/
def comma : UInt8 := 0x2C

/-- The quote. -/
def quote : UInt8 := 0x22

/-- The line feed. -/
def lineFeed : UInt8 := 0x0A

/-- The carriage return. -/
def carriageReturn : UInt8 := 0x0D

/-- Reads a byte that is outside quotes, or may be. -/
def readPlain (s : Scan) (b : UInt8) : Scan :=
  if b = comma then s.endField
  else if b = lineFeed then s.endRecord .recordStart
  else if b = carriageReturn then s.endRecord .afterReturn
  else s.copy b .inField

/-- Reads a byte at the start of a field. -/
def readFieldStart (s : Scan) (b : UInt8) : Scan :=
  if b = quote then { s with mode := .inQuotes } else s.readPlain b

/-- Reads a byte. -/
def step (s : Scan) (b : UInt8) : Scan :=
  let s := { s with byte := s.byte + 1, line := if b = lineFeed then s.line + 1 else s.line }
  match s.mode with
  | .recordStart =>
    if b = lineFeed || b = carriageReturn then s else s.readFieldStart b
  | .afterReturn =>
    if b = lineFeed || b = carriageReturn then { s with mode := .recordStart } else s.readFieldStart b
  | .fieldStart => s.readFieldStart b
  | .inField => s.readPlain b
  | .inQuotes => if b = quote then { s with mode := .afterQuote } else s.copy b .inQuotes
  | .afterQuote => if b = quote then s.copy b .inQuotes else s.readPlain b

/-- Completes the last record at the end of the bytes. -/
def finish (s : Scan) : List RawRecord :=
  match s.mode with
  | .recordStart | .afterReturn => s.records.reverse
  | _ => (s.endRecord .recordStart).records.reverse

end Scan

/-- The records of a string of bytes; a byte order mark in front is passed over. -/
def records (bytes : List UInt8) : List RawRecord :=
  match bytes with
  | 0xEF :: 0xBB :: 0xBF :: rest => (rest.foldl Scan.step { byte := 3 }).finish
  | _ => (bytes.foldl Scan.step {}).finish

/-! ## Tables -/

/-- Why bytes are no table. Records are counted from zero, the header being the first. -/
inductive Error where
  | unequalLengths (record line byte found expected : Nat)
  /-- A field is no text from some byte on. -/
  | malformedText (record line byte field index : Nat)
deriving DecidableEq

/-- The message of the error. -/
def Error.toText : Error → String
  | unequalLengths record line byte found expected =>
    "CSV error: record " ++ toString record ++ " (line: " ++ toString line ++ ", byte: " ++ toString byte ++
      "): found record with " ++ toString found ++ " fields, but the previous record has " ++ toString expected ++ " fields"
  | malformedText record line byte field index =>
    "CSV parse error: record " ++ toString record ++ " (line " ++ toString line ++ ", field: " ++ toString field ++
      ", byte: " ++ toString byte ++ "): invalid utf-8: invalid UTF-8 in field " ++ toString field ++
      " near byte index " ++ toString index

/-- The first field of a record that is no text, with the byte at which it stops being one. -/
def malformedField? (fields : List (List UInt8)) : Option (Nat × Nat) :=
  fields.zipIdx.findSome? fun (field, index) => (Text.malformedAt? field).map fun place => (index, place)

/-- The fields of record number `record`, which must be `expected`. -/
def decode (expected : Nat) (raw : RawRecord) (record : Nat) : Except Error (List String) :=
  if raw.fields.length ≠ expected then
    .error (.unequalLengths record raw.line raw.byte raw.fields.length expected)
  else match malformedField? raw.fields with
    | some (field, index) => .error (.malformedText record raw.line raw.byte field index)
    | none => .ok (raw.fields.map fun field => (Text.ofBytes? field).getD "")

/-- A row of a table: its fields in order. -/
abbrev Row := List String

/-- A table: the names of its columns and its rows. -/
structure Table where
  columns : List String
  rows : List Row

/-- A column name without the white space and the byte order marks around it. -/
def columnName (field : String) : String :=
  String.ofList (Text.trimChars (fun c => c.toNat == 0xFEFF) (Text.trim field).toList)

/-- Reads the table of a string of bytes. -/
def read (bytes : List UInt8) : Except Error Table :=
  match records bytes with
  | [] => .ok ⟨[], []⟩
  | header :: rows => do
    let width := header.fields.length
    let columns ← decode width header 0
    let rows ← rows.zipIdx.mapM fun (raw, index) => decode width raw (index + 1)
    return ⟨columns.map columnName, rows⟩

/-- The value of a row in a column, without the white space around it; an empty value is none. -/
def Table.get? (t : Table) (row : Row) (column : String) : Option String :=
  ((t.columns.idxOf? column).bind (row[·]?)).map Text.trim |>.filter (!·.isEmpty)

end DocumentaryCredit.Csv

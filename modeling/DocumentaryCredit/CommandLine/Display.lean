/-
What the checker shows: lines of text, tables, and JSON. What a table has in its cells is told here, and so is a
plain layout for it, each column as wide as its widest cell.
-/
import DocumentaryCredit.Interchange.Standards
import DocumentaryCredit.Message.Validator

namespace DocumentaryCredit

/-- A part of the output. -/
inductive Block where
  | line (text : String)
  /-- Rows of cells; the first row has the names of the columns. -/
  | table (rows : List (List String))
  | json (value : Json)

namespace Block

/-- A cell as wide as its column. -/
def padded (width : Nat) (cell : String) : String := cell ++ String.ofList (List.replicate (width - cell.length) ' ')

/-- The widths of the columns of a table. -/
def widths (rows : List (List String)) : List Nat :=
  rows.foldl (fun found row =>
    (List.range (max found.length row.length)).map fun column =>
      max (found[column]?.getD 0) ((row[column]?.map String.length).getD 0)) []

/-- A row of a table on one line. -/
def rowText (widths : List Nat) (row : List String) : String :=
  "  ".intercalate (List.zipWith padded widths (row.map (Text.replaceChar '\n' ' ')))

/-- The part as text, whose lines all end with a line feed. -/
def toText : Block → String
  | line text => text ++ "\n"
  | table rows => String.join (rows.map fun row => rowText (widths rows) row ++ "\n")
  | json value => value.pretty ++ "\n"

end Block

/-! ## Rule books -/

/-- A rule book and what is in it. -/
def RuleBook.display (book : RuleBook) (summary : RuleBookSummary) : List Block := [
  .line ("Standards: " ++ summary.directory),
  .line ("SWIFT MT: " ++ summary.pins.swiftMt ++ "  UCP: " ++ summary.pins.ucp),
  .table (["Message", "Name", "Version", "Fields", "Mandatory"] :: book.schemas.values.map fun schema =>
    ["MT" ++ schema.messageType, schema.name, schema.version, toString schema.fields.length,
      toString schema.mandatoryTags.length]),
  .line ("Verified " ++ toString summary.fileCount ++ " files: " ++ toString summary.fieldCount ++ " fields, " ++
    toString summary.ruleCount ++ " rules, " ++ toString summary.articleCount ++ " UCP rules")]

/-- A value that may be absent, as a cell. -/
def optionalCell (value : Option String) : String := value.getD "-"

/-- A text with its line breaks spelled out. -/
def spelledOut (s : String) : String :=
  String.ofList (s.toList.flatMap fun c => if c = '\n' then ['\\', 'n'] else [c])

/-- The fields of a message type. -/
def Schema.display (schema : Schema) : List Block := [
  .line ("MT" ++ schema.messageType ++ " " ++ schema.name ++ " (" ++ schema.version ++ ")"),
  .table (["Seq", "Tag", "Name", "Format", "M/O", "Allowed values"] :: schema.fields.map fun f =>
    [toString f.sequence, f.tag, f.name, spelledOut f.formatSpec, if f.isMandatory then "M" else "O",
      optionalCell (f.allowedValues.map fun allowed => " | ".intercalate allowed.elements)])]

/-! ## Messages -/

/-- The row of a field that has something wrong with it. -/
def FieldResult.row (r : FieldResult) : List String :=
  match r.failure with
  | none => [r.tag, "-", "", "-", "-"]
  | some failure =>
    [r.tag, failure.kind.toText, failure.message r.tag, optionalCell (failure.expected.map spelledOut),
      optionalCell (failure.actual.map spelledOut)]

/-- The result of the validation of a message. -/
def MessageResult.display (r : MessageResult) : List Block :=
  .line ("MT" ++ r.messageType ++ ": " ++ (if r.isValid then "valid" else "INVALID") ++ " (" ++
      toString r.errors.length ++ " errors)") ::
    if r.isValid then []
    else [.table (["Tag", "Error", "Message", "Expected", "Actual"] :: r.errors.map FieldResult.row)]

/-- A text block that has been read. -/
def ParsedMessage.display (p : ParsedMessage) : List Block :=
  .table (["Tag", "Value"] :: p.fields.entries.map fun (tag, value) => [tag, value]) :: p.validation.display

/-- The JSON form of a text block that has been read. -/
def ParsedMessage.toJson (p : ParsedMessage) : Json :=
  .object [("fields", p.fields.toJson), ("validation", p.validation.toJson)]

/-! ## Reports -/

/-- The row of a discrepancy. -/
def Discrepancy.row (d : Discrepancy) : List String :=
  [Text.asciiUpper (Named.name d.severity), d.reference, Named.name d.field, d.expected, d.actual, d.description,
    d.recommendation]

/-- The discrepancies of a report, the most severe first. -/
def Report.display (r : Report) : List Block :=
  .line ("Document set: " ++ r.setId) ::
    if r.isClean then [.line "No discrepancies"]
    else
      let sorted := r.discrepancies.mergeSort fun a b => b.severity.rank ≤ a.severity.rank
      [.table (["Severity", "Rule", "Field", "Expected", "Actual", "Description", "Recommendation"]
        :: sorted.map Discrepancy.row)]

/-- The lines on the gaps of a report. -/
def Report.gapLines (r : Report) : List String :=
  if r.gaps.isEmpty then [] else "Unclassified mismatches:" :: r.gaps.map fun g => "- " ++ g.toText

end DocumentaryCredit

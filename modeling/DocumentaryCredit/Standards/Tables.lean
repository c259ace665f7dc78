/-
The tables of a rule book: the message types, their fields, the rules of the fields, and the articles by which
disagreements are judged. Columns are found by their names, and the rows are read one after another; the first
thing that is wrong is reported.
-/
import DocumentaryCredit.Message.Schema
import DocumentaryCredit.Presentation.Discrepancy
import DocumentaryCredit.Standards.Error

namespace DocumentaryCredit

/-- A row of a table with its number, counted from one. -/
structure NumberedRow where
  table : Csv.Table
  path : String
  number : Nat
  row : Csv.Row

namespace NumberedRow

/-- The value in a column, if there is one. -/
def get? (r : NumberedRow) (column : String) : Option String := r.table.get? r.row column

/-- The error of a fault in the row. -/
def fail {α : Type} (r : NumberedRow) (fault : TableFault) : Except StandardsError α := .error (.table r.path fault)

/-- The value in a column that must have one. -/
def require (r : NumberedRow) (column : String) : Except StandardsError String :=
  match r.get? column with
  | some value => .ok value
  | none => r.fail (.missing r.number column)

/-- The number in a column, if there is one. -/
def number? (r : NumberedRow) (limit : Nat) (column : String) : Except StandardsError (Option Nat) :=
  match r.get? column with
  | none => .ok none
  | some value =>
    match Text.readNat? limit value with
    | some n => .ok (some n)
    | none => r.fail (.notNumber r.number column value)

/-- A value that is read from its name. -/
def named {α : Type} (r : NumberedRow) (fault : String → NameFault) (read : String → Except String α)
    (value : String) : Except StandardsError α :=
  match read value with
  | .ok a => .ok a
  | .error name => .error (.name r.path (fault name))

end NumberedRow

/-- Reads the rows of the table of a file. -/
def readTable {α : Type} (path : String) (bytes : List UInt8) (readRow : NumberedRow → Except StandardsError α) :
    Except StandardsError (List α) :=
  match Csv.read bytes with
  | .error cause => .error (.table path (.malformed cause))
  | .ok table => table.rows.zipIdx.mapM fun (row, index) => readRow ⟨table, path, index + 1, row⟩

/-! ## Message types -/

/-- A message type of the table. -/
structure MessageRow where
  messageType : String
  name : String
  version : String
deriving DecidableEq

/-- Reads a message type. -/
def MessageRow.read (r : NumberedRow) : Except StandardsError MessageRow := do
  let messageType ← r.require "Message Type"
  let name ← r.require "Name"
  return ⟨normalizeMessageType messageType, name, (r.get? "Version").getD ""⟩

/-- The first message type of a sorted list that stands there twice. -/
def listedTwice? : List MessageRow → Option String
  | a :: b :: rest => if a.messageType = b.messageType then some a.messageType else listedTwice? (b :: rest)
  | _ => none

/-- Reads the message types, in their order; none may be listed twice. -/
def readMessages (path : String) (bytes : List UInt8) : Except StandardsError (List MessageRow) := do
  let rows ← readTable path bytes MessageRow.read
  let sorted := rows.mergeSort fun a b => decide (a.messageType ≤ b.messageType)
  match listedTwice? sorted with
  | some messageType => .error (.table path (.messageTwice messageType))
  | none => .ok sorted

/-! ## Fields -/

/-- A field of a message type. -/
structure FieldRow where
  messageType : String
  definition : FieldDefinition
deriving DecidableEq

/-- Whether a flag says yes. -/
def readFlag? (s : String) : Option Bool :=
  let flag := Text.asciiUpper s
  if ["Y", "YES", "M", "TRUE"].contains flag then some true
  else if ["N", "NO", "O", "FALSE"].contains flag then some false
  else none

/-- The values between bars, without the white space around them and without empty ones. -/
def readAlternatives (s : String) : TextSet :=
  TextSet.ofList (((Text.splitOn '|' s).map Text.trim).filter (!·.isEmpty))

/-- Reads a field. -/
def FieldRow.read (r : NumberedRow) : Except StandardsError FieldRow := do
  let messageType ← r.require "Message Type"
  let tag ← r.require "Tag"
  let some sequence ← r.number? Text.maxNat32 "Sequence" | r.fail (.missing r.number "Sequence")
  let flag ← r.require "Mandatory"
  let some isMandatory := readFlag? flag | r.fail (.mandatoryFlag r.number)
  let name ← r.require "Field Name"
  let formatSpec ← r.require "Format"
  let maxOccurrences ← r.number? Text.maxNat32 "Max Occurrences"
  return ⟨normalizeMessageType messageType, {
    tag := Text.asciiUpper tag
    name, formatSpec, isMandatory, sequence
    allowedValues := (r.get? "Allowed Values").map readAlternatives
    maxOccurrences := maxOccurrences.getD 1
    rules := [] }⟩

/-- Reads the fields. -/
def readFields (path : String) (bytes : List UInt8) : Except StandardsError (List FieldRow) :=
  readTable path bytes FieldRow.read

/-! ## Rules -/

/-- A rule and the field it belongs to. -/
structure RuleRow where
  messageType : String
  tag : String
  rule : FieldRule
deriving DecidableEq

/-- Reads what a rule of some kind says. -/
def readRule (r : NumberedRow) : RuleKind → Except StandardsError FieldRule
  | .length => do
    let min := (← r.number? Text.maxNat64 "Min").getD 0
    let some max ← r.number? Text.maxNat64 "Max" | r.fail (.lengthWithoutMax r.number)
    if min > max then r.fail (.lengthBounds r.number min max) else return .length min max
  | .pattern => do
    let text ← r.require "Pattern"
    match Pattern.ofText? text with
    | some pattern => return .pattern pattern
    | none => .error (.name r.path (.pattern text))
  | .date => return .date ((← r.number? Text.maxNat64 "Component").getD 0)
  | .crossField => do
    let relation ← r.named .ruleKind Relation.read (← r.require "Relation")
    let otherTag ← r.require "Other Tag"
    return .crossField ⟨relation, Text.asciiUpper otherTag⟩

/-- Reads a rule. -/
def RuleRow.read (r : NumberedRow) : Except StandardsError RuleRow := do
  let messageType ← r.require "Message Type"
  let tag ← r.require "Tag"
  let kind ← r.named .ruleKind RuleKind.read (← r.require "Rule Kind")
  return ⟨normalizeMessageType messageType, Text.asciiUpper tag, ← readRule r kind⟩

/-- Reads the rules. -/
def readRules (path : String) (bytes : List UInt8) : Except StandardsError (List RuleRow) :=
  readTable path bytes RuleRow.read

/-! ## Articles -/

/-- The value of a name, or the name where there is none. -/
def nameOr {α : Type} (read? : String → Option α) (s : String) : Except String α :=
  match read? s with
  | some a => .ok a
  | none => .error s

/-- Reads the category of a row, which no row before it may have. -/
def readCategory (r : NumberedRow) (seen : List Category) : Except StandardsError Category := do
  let category ← r.named .category (nameOr Category.read?) (← r.require "Category")
  if seen.contains category then r.fail (.categoryTwice r.number (Named.name category)) else return category

/-- Reads the rows of the articles after those of the categories already seen. -/
def readArticleRows (seen : List Category) : List NumberedRow → Except StandardsError (List ClassificationRule)
  | [] => .ok []
  | r :: rest => do
    let category ← readCategory r seen
    let severity ← r.named .severity (nameOr Severity.read?) (← r.require "Severity")
    let reference ← r.require "Rule Reference"
    let rest ← readArticleRows (category :: seen) rest
    return {
      category, reference, severity
      articleText := (r.get? "Article Text").getD ""
      recommendation := (r.get? "Recommendation").getD "" } :: rest

/-- Reads the articles, one for a category. -/
def readArticles (path : String) (bytes : List UInt8) : Except StandardsError (List ClassificationRule) :=
  readTable path bytes (fun r => .ok r) >>= readArticleRows []

end DocumentaryCredit

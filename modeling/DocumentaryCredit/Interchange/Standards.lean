/-
The JSON forms of manifests, of the rows of tables, and of what is told about a rule book.
-/
import DocumentaryCredit.Interchange.Message
import DocumentaryCredit.Interchange.Presentation
import DocumentaryCredit.Standards.RuleBook

namespace DocumentaryCredit

/-- The JSON form of the releases. -/
def Pins.toJson (p : Pins) : Json := .object [("swift_mt", .text p.swiftMt), ("ucp", .text p.ucp)]

/-- The JSON form of the entry of a table. -/
def ManifestFile.toJson (f : ManifestFile) : Json := .object [
  ("path", .text f.path),
  ("sha256", .text f.sha256),
  ("kind", .text f.kind),
  ("role", .text f.role),
  ("notes", .option .text f.notes)]

/-- The JSON form of a message type of a table. -/
def MessageRow.toJson (m : MessageRow) : Json := .object [
  ("message_type", .text m.messageType),
  ("name", .text m.name),
  ("version", .text m.version)]

/-- The JSON form of a field of a table. -/
def FieldRow.toJson (f : FieldRow) : Json := .object [
  ("message_type", .text f.messageType),
  ("definition", f.definition.toJson)]

/-- The JSON form of a rule of a table. -/
def RuleRow.toJson (r : RuleRow) : Json := .object [
  ("message_type", .text r.messageType),
  ("tag", .text r.tag),
  ("rule", r.rule.toJson)]

/-- The JSON form of the summary of a rule book. -/
def RuleBookSummary.toJson (s : RuleBookSummary) : Json := .object [
  ("standards_dir", .text s.directory),
  ("manifest_pins", s.pins.toJson),
  ("file_count", .nat s.fileCount),
  ("message_type_count", .nat s.messageTypeCount),
  ("field_count", .nat s.fieldCount),
  ("rule_count", .nat s.ruleCount),
  ("ucp_rule_count", .nat s.articleCount)]

/-- What is told about a message type of a rule book. -/
def Schema.overview (schema : Schema) : Json := .object [
  ("message_type", .text schema.messageType),
  ("name", .text schema.name),
  ("version", .text schema.version),
  ("fields", .nat schema.fields.length),
  ("mandatory", .nat schema.mandatoryTags.length)]

/-- The report on a rule book: its releases, its files and what is in it. -/
def RuleBook.report (book : RuleBook) (s : RuleBookSummary) : Json := .object [
  ("schema", .text "lc-checker.standards-doctor"),
  ("schema_version", .nat 1),
  ("pins", s.pins.toJson),
  ("files", .list ManifestFile.toJson book.files),
  ("counts", .object [
    ("files", .nat s.fileCount),
    ("message_types", .nat s.messageTypeCount),
    ("fields", .nat s.fieldCount),
    ("rules", .nat s.ruleCount),
    ("ucp_rules", .nat s.articleCount)]),
  ("message_types", .list Schema.overview book.schemas.values)]

end DocumentaryCredit

/-
The JSON forms of document sets, disagreements, rules and reports.
-/
import DocumentaryCredit.Json.Record
import DocumentaryCredit.Presentation.Report

namespace DocumentaryCredit

/-! ## Documents -/

namespace DocumentKind

/-- Reads a kind of document by one of its names. -/
def ofJson? : Json → Option DocumentKind
  | .text name => ofName? name
  | .object [(name, .null)] => ofName? name
  | _ => none

end DocumentKind

namespace Document

/-- Reads a document. -/
def ofJson? (j : Json) : Option Document := do
  let r ← j.record? ["document_type", "reference", "extracted_fields"]
  return {
    kind := ← r.required "document_type" DocumentKind.ofJson?
    reference := ← r.withDefault "reference" none (Json.option? Json.text?)
    rawFields := ← r.withDefault "extracted_fields" TextMap.empty (Json.map? Json.text?) }

end Document

namespace DocumentSet

/-- Reads a set of documents. -/
def ofJson? (j : Json) : Option DocumentSet := do
  let r ← j.record? ["id", "lc_reference", "documents"]
  return {
    id := ← r.required "id" Json.text?
    creditReference := ← r.required "lc_reference" Json.text?
    documents := ← r.required "documents" (Json.list? Document.ofJson?) }

end DocumentSet

namespace DocumentRef

/-- Reads a pointer to a document. -/
def ofJson? (j : Json) : Option DocumentRef := do
  let r ← j.record? ["index", "document_type", "reference"]
  return {
    index := ← r.required "index" (Json.nat? Text.maxNat64)
    kind := ← r.required "document_type" DocumentKind.ofJson?
    reference := ← r.withDefault "reference" none (Json.option? Json.text?) }

/-- The JSON form of a pointer to a document. -/
def toJson (r : DocumentRef) : Json :=
  .object ([("index", .nat r.index), ("document_type", Json.named r.kind)]
    ++ (r.reference.map fun reference => ("reference", Json.text reference)).toList)

end DocumentRef

/-! ## Disagreements -/

namespace Disagreement

/-- Reads a disagreement. -/
def ofJson? (j : Json) : Option Disagreement := do
  let r ← j.record?
    ["field", "counterpart", "kind", "document_a", "value_a", "document_b", "value_b", "equivalent_variant"]
  let field ← r.required "field" Json.named?
  let counterpart ← r.required "counterpart" Json.named?
  let kind ← r.required "kind" Json.named?
  let documentA ← r.required "document_a" DocumentRef.ofJson?
  let valueA ← r.required "value_a" Json.text?
  let documentB ← r.required "document_b" DocumentRef.ofJson?
  let valueB ← r.required "value_b" Json.text?
  let isVariant ← r.withDefault "equivalent_variant" false Json.bool?
  return ⟨kind, ⟨field, documentA, valueA⟩, ⟨counterpart, documentB, valueB⟩, isVariant⟩

/-- The JSON form of a disagreement. -/
def toJson (d : Disagreement) : Json := .object [
  ("field", Json.named d.first.field),
  ("counterpart", Json.named d.second.field),
  ("kind", Json.named d.kind),
  ("document_a", d.first.document.toJson),
  ("value_a", .text d.first.value),
  ("document_b", d.second.document.toJson),
  ("value_b", .text d.second.value),
  ("equivalent_variant", .bool d.isVariant)]

end Disagreement

namespace Equivalence

/-- Reads the settings of a comparison; other settings than these are refused. -/
def ofJson? (j : Json) : Option Equivalence := do
  let r ← j.recordWith? ["strip_punctuation", "equivalents"] [] true
  return {
    stripPunctuation := ← r.withDefault "strip_punctuation" false Json.bool?
    groups := ← r.withDefault "equivalents" [] (Json.list? (Json.list? Json.text?)) }

/-- The JSON form of the settings of a comparison. -/
def toJson (e : Equivalence) : Json := .object [
  ("strip_punctuation", .bool e.stripPunctuation),
  ("equivalents", .list Json.texts e.groups)]

end Equivalence

/-! ## Judgements -/

namespace ClassificationRule

/-- Reads a rule. -/
def ofJson? (j : Json) : Option ClassificationRule := do
  let r ← j.record? ["category", "rule_reference", "severity", "article_text", "recommendation"]
  return {
    category := ← r.required "category" Json.named?
    reference := ← r.required "rule_reference" Json.text?
    severity := ← r.required "severity" Json.named?
    articleText := ← r.withDefault "article_text" "" Json.text?
    recommendation := ← r.withDefault "recommendation" "" Json.text? }

/-- The JSON form of a rule. -/
def toJson (rule : ClassificationRule) : Json := .object [
  ("category", Json.named rule.category),
  ("rule_reference", .text rule.reference),
  ("severity", Json.named rule.severity),
  ("article_text", .text rule.articleText),
  ("recommendation", .text rule.recommendation)]

end ClassificationRule

/-- The JSON form of a discrepancy. -/
def Discrepancy.toJson (d : Discrepancy) : Json := .object [
  ("id", .text d.id),
  ("document_set_id", .text d.setId),
  ("rule_reference", .text d.reference),
  ("field_name", .text (Named.name d.field)),
  ("severity", Json.named d.severity),
  ("expected_value", .text d.expected),
  ("actual_value", .text d.actual),
  ("description", .text d.description),
  ("recommendation", .text d.recommendation),
  ("documents", .list DocumentRef.toJson d.documents)]

/-- The JSON form of a gap. -/
def Gap.toJson (g : Gap) : Json :=
  let d := g.disagreement
  .object [
    ("field", Json.named d.first.field),
    ("category", Json.named d.category),
    ("document_a", d.first.document.toJson),
    ("document_b", d.second.document.toJson),
    ("value_a", .text d.first.value),
    ("value_b", .text d.second.value)]

/-- The JSON form of a report. -/
def Report.toJson (r : Report) : Json := .object [
  ("document_set_id", .text r.setId),
  ("discrepancies", .list Discrepancy.toJson r.discrepancies),
  ("classification_gaps", .list Gap.toJson r.gaps)]

end DocumentaryCredit

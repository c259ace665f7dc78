/-
How disagreements are judged: a table says for each category which article it falls under and how severe it is.
A disagreement of a category that the table does not have is a gap, which is reported as such.
-/
import DocumentaryCredit.Presentation.Disagreement
import DocumentaryCredit.Presentation.Value
import DocumentaryCredit.Sha256
import DocumentaryCredit.Text.Utf8

namespace DocumentaryCredit

/-! ## Severity -/

/-- How severe a discrepancy is. -/
inductive Severity where
  | low
  | medium
  | high
  | critical
deriving DecidableEq

namespace Severity

instance : Named Severity where
  all := [low, medium, high, critical]
  name
    | low => "low"
    | medium => "medium"
    | high => "high"
    | critical => "critical"

/-- The rank of a severity, from the least severe on. -/
def rank : Severity → Nat
  | low => 0
  | medium => 1
  | high => 2
  | critical => 3

/-- The more severe of two. -/
def max (a b : Severity) : Severity := if a.rank ≤ b.rank then b else a

/-- Reads a severity, in any case and with the names that reviewers use. -/
def read? (s : String) : Option Severity :=
  match canonicalName [] s with
  | "major" => some high
  | "minor" => some low
  | name => Named.read? name

end Severity

/-! ## Rules -/

/-- How the disagreements of a category are judged. -/
structure ClassificationRule where
  category : Category
  /-- The article that they fall under. -/
  reference : String
  severity : Severity
  articleText : String := ""
  recommendation : String := ""
deriving DecidableEq

/-- What is recommended: what the rule says, or a review against its article. -/
def ClassificationRule.advice (rule : ClassificationRule) : String :=
  if Text.isBlank rule.recommendation then "Review the documents against " ++ rule.reference ++ "."
  else rule.recommendation

/-- The rule of each category that has one. -/
structure RuleTable where
  get? : Category → Option ClassificationRule

namespace RuleTable

/-- The table of a list of rules; of several rules of a category the last one counts. -/
def ofRules (rules : List ClassificationRule) : RuleTable := ⟨fun category => rules.reverse.find? (·.category = category)⟩

/-- The rules in the order of their categories. -/
def rules (table : RuleTable) : List ClassificationRule := Named.all.filterMap table.get?

/-- The articles of UCP 600 that the comparison of documents rests on. -/
def ucp600 : RuleTable := ofRules [
  { category := .amount, reference := "UCP600-18", severity := .critical
    recommendation :=
      "Obtain a corrected invoice within the credit amount or an amendment increasing the credit." },
  { category := .date, reference := "UCP600-14c", severity := .critical
    recommendation := "Check the dates against the credit; an amendment extending the date may be required." },
  { category := .partyName, reference := "UCP600-14d", severity := .high
    recommendation := "Align the party name with the credit or obtain the applicant's waiver." },
  { category := .quantity, reference := "UCP600-30", severity := .high
    recommendation := "Reconcile the quantities across the documents." },
  { category := .goodsDescription, reference := "UCP600-14e", severity := .low
    recommendation := "Confirm the goods description does not conflict with the credit." },
  { category := .place, reference := "UCP600-14d", severity := .medium
    recommendation := "Confirm the ports stated match the credit." },
  { category := .reference, reference := "UCP600-14d", severity := .medium
    recommendation := "Correct the credit reference on the document." }]

end RuleTable

/-! ## Discrepancies -/

/-- A disagreement that has been judged. -/
structure Discrepancy where
  id : String
  setId : String
  reference : String
  field : LogicalField
  severity : Severity
  expected : String
  actual : String
  description : String
  recommendation : String
  documents : List DocumentRef
deriving DecidableEq

/-- A disagreement for which the table has no rule. -/
structure Gap where
  disagreement : Disagreement
deriving DecidableEq

/-- The message of a gap. -/
def Gap.toText (g : Gap) : String :=
  "no UCP 600 rule for " ++ Named.name g.disagreement.category ++ " mismatch on " ++
    Named.name g.disagreement.first.field ++ " (" ++ g.disagreement.first.document.toText ++ " vs " ++
    g.disagreement.second.document.toText ++ ")"

namespace Disagreement

/-- Whether the numbers in the two values are the same. -/
def numbersAgree (d : Disagreement) : Bool :=
  let a := numbersIn d.first.value
  let b := numbersIn d.second.value
  a.length == b.length && (a.zip b).all fun (x, y) => x.sameValue y

/-- The severity of a disagreement whose rule has the severity `base`: what cannot be read and goods in other
numbers are at least high, and a variant of a party's name is low. -/
def severity (d : Disagreement) (base : Severity) : Severity :=
  if d.kind = .unreadable then base.max .high
  else if d.category = .partyName && d.isVariant then .low
  else if d.category = .goodsDescription && !d.numbersAgree then base.max .high
  else base

/-- The first side has the expected value: it is the credit's, or that of the earlier document. -/
def firstIsExpected (d : Disagreement) : Bool :=
  let a := d.first.document
  let b := d.second.document
  if a.kind.isCredit != b.kind.isCredit then a.kind.isCredit else a.index ≤ b.index

/-- The document and the value of a side. -/
def sideText (s : Side) : String := s.document.toText ++ " ('" ++ s.value ++ "')"

/-- What is wrong, in words. -/
def describe (d : Disagreement) : String :=
  let field := Text.capitalize d.first.field.toText
  match d.kind with
  | .differs =>
    field ++ " differs between " ++ sideText d.first ++ " and " ++ sideText d.second ++
      if d.isVariant then " only by a configured equivalent" else ""
  | .exceedsCredit =>
    let (credit, presented) :=
      if d.first.document.kind.isCredit then (d.first, d.second) else (d.second, d.first)
    field ++ " on " ++ sideText presented ++ " exceeds the amount permitted by " ++ sideText credit
  | .laterThan =>
    field ++ " on " ++ sideText d.first ++ " is later than the " ++ d.second.field.toText ++ " on " ++ sideText d.second
  | .unreadable =>
    field ++ " could not be compared: " ++ d.first.document.toText ++ " states '" ++ d.first.value ++ "', " ++
      d.second.document.toText ++ " states '" ++ d.second.value ++ "'"

/-- The sides in the order of their documents and, within one document, of the names of their fields. -/
def orderedSides (d : Disagreement) : Side × Side :=
  let a := d.first
  let b := d.second
  let inOrder := a.document.index < b.document.index ||
    (a.document.index == b.document.index && !(decide (Named.name b.field < Named.name a.field)))
  if inOrder then (a, b) else (b, a)

/-- The text that a discrepancy is numbered by: its set, its article, and the fields and places of its sides,
whichever of them comes first. -/
def identity (d : Disagreement) (setId reference : String) : String :=
  let (a, b) := d.orderedSides
  let part (s : Side) := "|" ++ Named.name s.field ++ "|" ++ toString s.document.index
  setId ++ "|" ++ reference ++ part a ++ part b

/-- The number of a discrepancy: the first sixteen digits of a hash. -/
def discrepancyId (identity : String) : String :=
  String.ofList ((Sha256.hexHash (Text.toBytes identity)).toList.take 16)

/-- Judges a disagreement by a table. -/
def classify (d : Disagreement) (setId : String) (table : RuleTable) : Except Gap Discrepancy :=
  match table.get? d.category with
  | none => .error ⟨d⟩
  | some rule =>
    let (expected, actual) := if d.firstIsExpected then (d.first, d.second) else (d.second, d.first)
    .ok {
      id := discrepancyId (d.identity setId rule.reference)
      setId
      reference := rule.reference
      field := d.first.field
      severity := d.severity rule.severity
      expected := expected.value
      actual := actual.value
      description := d.describe
      recommendation := rule.advice
      documents :=
        if d.second.document.index < d.first.document.index then [d.second.document, d.first.document]
        else [d.first.document, d.second.document] }

end Disagreement

end DocumentaryCredit

/-
The comparison of the documents of a set, each with each. Two documents agree when they agree on every field
that both state and must agree on, and when no date of one is after a date of the other that bounds it. The
amount of a credit is a ceiling for the other documents, widened by the credit's tolerance; the amounts of
other documents must be equal.
-/
import DocumentaryCredit.Presentation.Disagreement
import DocumentaryCredit.Presentation.Equivalence
import DocumentaryCredit.Presentation.Extraction

namespace DocumentaryCredit

/-- A document within its set. -/
structure Entry where
  index : Nat
  document : Document

namespace Entry

/-- What the document states of a field, if anything. -/
def side? (e : Entry) (field : LogicalField) : Option Side :=
  (e.document.stated? field).map fun value => ⟨field, DocumentRef.of e.index e.document, value⟩

end Entry

/-- The dates that bound dates of other documents: a date of the first field is not after one of the second. -/
def dateBounds : List (LogicalField × LogicalField) := [
  (.shipmentDate, .latestShipmentDate),
  (.shipmentDate, .expiryDate),
  (.issueDate, .expiryDate)]

/-! ## One field -/

/-- Two amounts. The tolerance widens the amount of the credit, when one of the documents is a credit. -/
def compareAmounts (tolerance : Option Tolerance) (a b : Side) : Option DisagreementKind :=
  match parseAmount? a.value, parseAmount? b.value with
  | some x, some y =>
    let currenciesDiffer := match x.currency, y.currency with
      | some c, some d => c != d
      | _, _ => false
    if currenciesDiffer then some .differs
    else if a.document.kind.isCredit != b.document.kind.isCredit then
      let (credit, presented) := if a.document.kind.isCredit then (x, y) else (y, x)
      let ceiling := match tolerance with
        | some tolerance => tolerance.ceiling? credit.value
        | none => some credit.value
      match ceiling with
      | none => some .unreadable
      | some ceiling => if presented.value.exceeds ceiling then some .exceedsCredit else none
    else if x.value.sameValue y.value then none
    else some .differs
  | _, _ => some .unreadable

/-- Two dates. -/
def compareDates (a b : Side) : Option DisagreementKind :=
  match parseDate? a.value, parseDate? b.value with
  | some x, some y => if x = y then none else some .differs
  | _, _ => some .unreadable

/-- Two quantities. -/
def compareQuantities (a b : Side) : Option DisagreementKind :=
  match parseQuantity? a.value, parseQuantity? b.value with
  | some x, some y => if x.value.sameValue y.value && x.unit == y.unit then none else some .differs
  | _, _ => some .unreadable

/-- Two texts, which are equal up to case and white space or differ. -/
def compareTexts (a b : Side) : Option DisagreementKind :=
  if normalizeText a.value false == normalizeText b.value false then none else some .differs

/-- The disagreement of two documents on a field that both state. -/
def compareSides (equivalence : Equivalence) (tolerance : Option Tolerance) (a b : Side) : Option Disagreement :=
  match a.field.category with
  | .amount => (compareAmounts tolerance a b).map fun kind => ⟨kind, a, b, false⟩
  | .date => (compareDates a b).map fun kind => ⟨kind, a, b, false⟩
  | .quantity => (compareQuantities a b).map fun kind => ⟨kind, a, b, false⟩
  | .partyName | .goodsDescription | .place | .reference =>
    (compareTexts a b).map fun kind => ⟨kind, a, b, equivalence.relates a.value b.value⟩

/-- The disagreements of two documents on the fields that must agree. -/
def fieldDisagreements (equivalence : Equivalence) (tolerance : Option Tolerance) (a b : Entry) : List Disagreement :=
  ((Named.all : List LogicalField).filter (·.mustAgree)).filterMap fun field =>
    match a.side? field, b.side? field with
    | some x, some y => compareSides equivalence tolerance x y
    | _, _ => none

/-! ## Dates that bound each other -/

/-- A check of a date against the date that bounds it: the kind of disagreement, and the side that cannot be
read, if one cannot. -/
def checkBound (date bound : Side) : Option (DisagreementKind × Option Side) :=
  match parseDate? date.value, parseDate? bound.value with
  | some x, some y => if y.before x then some (.laterThan, none) else none
  | none, _ => some (.unreadable, some date)
  | some _, none => some (.unreadable, some bound)

/-- The dates of one document and the dates of the other that bound them. -/
def boundedPairs (x y : Entry) : List (Side × Side) :=
  dateBounds.filterMap fun (field, bound) =>
    match x.side? field, y.side? bound with
    | some date, some limit => some (date, limit)
    | _, _ => none

/-- The disagreements of dates with their bounds; a date that cannot be read is reported once, after which it
is in `reported`. -/
def boundDisagreements (reported : List Side) : List (Side × Side) → List Disagreement
  | [] => []
  | (date, bound) :: rest =>
    match checkBound date bound with
    | none => boundDisagreements reported rest
    | some (kind, none) => ⟨kind, date, bound, false⟩ :: boundDisagreements reported rest
    | some (kind, some culprit) =>
      if reported.contains culprit then boundDisagreements reported rest
      else ⟨kind, date, bound, false⟩ :: boundDisagreements (culprit :: reported) rest

/-! ## Sets of documents -/

/-- The disagreements of two documents. -/
def comparePair (equivalence : Equivalence) (tolerance : Option Tolerance) (a b : Entry) : List Disagreement :=
  fieldDisagreements equivalence tolerance a b ++ boundDisagreements [] (boundedPairs a b ++ boundedPairs b a)

namespace DocumentSet

/-- The documents of a set with their places. -/
def entries (set : DocumentSet) : List Entry := set.documents.zipIdx.map fun (document, index) => ⟨index, document⟩

/-- The tolerance of the credit of a set, if it can be read. -/
def tolerance? (set : DocumentSet) : Option Tolerance :=
  ((set.documents.find? (·.kind.isCredit)).bind Document.tolerance?).bind parseTolerance?

/-- The pairs of a list, each element with each that follows it. -/
def pairs {α : Type} : List α → List (α × α)
  | [] => []
  | a :: rest => rest.map (fun b => (a, b)) ++ pairs rest

/-- The disagreements of the documents of a set, pair after pair. -/
def compare (set : DocumentSet) (equivalence : Equivalence) : List Disagreement :=
  (pairs set.entries).flatMap fun (a, b) => comparePair equivalence set.tolerance? a b

end DocumentSet

end DocumentaryCredit

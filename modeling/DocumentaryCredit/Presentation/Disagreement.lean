/-
Disagreements between two documents of a set, before they are judged.
-/
import DocumentaryCredit.Presentation.Document

namespace DocumentaryCredit

/-- How two values disagree. -/
inductive DisagreementKind where
  /-- The values should be equal and are not. -/
  | differs
  /-- An amount is above what the credit permits. -/
  | exceedsCredit
  /-- A date is after the one that bounds it. -/
  | laterThan
  /-- One of the values cannot be read. -/
  | unreadable
deriving DecidableEq

instance : Named DisagreementKind where
  all := [.differs, .exceedsCredit, .laterThan, .unreadable]
  name
    | .differs => "differs"
    | .exceedsCredit => "exceeds_credit"
    | .laterThan => "later_than"
    | .unreadable => "unreadable"

/-- What a document states of a field. -/
structure Side where
  field : LogicalField
  document : DocumentRef
  value : String
deriving DecidableEq

/-- A disagreement of two documents. Both sides are of one field, unless one date bounds another. -/
structure Disagreement where
  kind : DisagreementKind
  first : Side
  second : Side
  /-- The values are only variants of each other. -/
  isVariant : Bool
deriving DecidableEq

namespace Disagreement

/-- The category by which a disagreement is judged. -/
def category (d : Disagreement) : Category := d.first.field.category

/-- The same disagreement seen from the other document. -/
def swapped (d : Disagreement) : Disagreement := { d with first := d.second, second := d.first }

end Disagreement

end DocumentaryCredit

/-
The report on a set of documents: every disagreement of the comparison, judged, or reported as a gap where the
table has no rule for it.
-/
import DocumentaryCredit.Presentation.Comparison
import DocumentaryCredit.Presentation.Discrepancy

namespace DocumentaryCredit

/-- What was found in a set of documents. -/
structure Report where
  setId : String
  discrepancies : List Discrepancy
  gaps : List Gap

namespace Report

/-- The report on a list of disagreements. -/
def ofDisagreements (setId : String) (table : RuleTable) (found : List Disagreement) : Report where
  setId
  discrepancies := found.filterMap fun d => (d.classify setId table).toOption
  gaps := found.filterMap fun d =>
    match d.classify setId table with
    | .error gap => some gap
    | .ok _ => none

/-- The number of discrepancies that are at least so severe. -/
def countAtLeast (r : Report) (severity : Severity) : Nat :=
  (r.discrepancies.filter fun d => severity.rank ≤ d.severity.rank).length

/-- The greatest severity of the discrepancies. -/
def highest? (r : Report) : Option Severity :=
  r.discrepancies.foldl (fun best d => some (best.elim d.severity (·.max d.severity))) none

/-- Nothing was found, and nothing was left unjudged. -/
def isClean (r : Report) : Bool := r.discrepancies.isEmpty && r.gaps.isEmpty

end Report

/-- Compares the documents of a set and judges what disagrees. -/
def DocumentSet.report (set : DocumentSet) (equivalence : Equivalence) (table : RuleTable) : Report :=
  Report.ofDisagreements set.id table (set.compare equivalence)

end DocumentaryCredit

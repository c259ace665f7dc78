/-
A rule book in use, which may be read anew while validators go on with the one they started with. A reading that
fails changes nothing but the formats that it compiled before it failed.
-/
import DocumentaryCredit.Standards.RuleBook

namespace DocumentaryCredit

/-- The current rule book and the formats compiled so far. -/
structure Shelf where
  current : RuleBook
  formats : FormatCache

namespace Shelf

/-- Reads the rule book of a directory. -/
def load (tree : FileTree) (directory : String) : Except StandardsError (Shelf × RuleBookSummary) :=
  match RuleBook.load tree directory |>.run |>.run {} with
  | (.ok (book, summary), formats) => .ok (⟨book, formats⟩, summary)
  | (.error e, _) => .error e

/-- Reads the rule book of a directory in place of the current one. -/
def reload (shelf : Shelf) (tree : FileTree) (directory : String) : Except StandardsError RuleBookSummary × Shelf :=
  match RuleBook.load tree directory |>.run |>.run shelf.formats with
  | (.ok (book, summary), formats) => (.ok summary, ⟨book, formats⟩)
  | (.error e, formats) => (.error e, { shelf with formats })

end Shelf

end DocumentaryCredit

/-
A session with the checker: files that change, a rule book on the shelf, and a validator. The validator keeps
the rule book that it was bound to, whatever becomes of the one on the shelf, until another validator is bound;
its answers need formats, which it shares with the shelf.
-/
import DocumentaryCredit.Message.Validator
import DocumentaryCredit.Standards.Bundled
import DocumentaryCredit.Standards.Shelf

namespace DocumentaryCredit

/-- The state of a session. -/
structure Session where
  tree : FileTree
  shelf : Shelf
  validator : Validator

namespace Session

/-- The validator of a shelf's current rule book. -/
def validatorOf (shelf : Shelf) : Validator := ⟨shelf.current⟩

/-- A session that starts with the rule book of a directory. -/
def start (tree : FileTree) (directory : String) : Except StandardsError (Session × RuleBookSummary) :=
  (Shelf.load tree directory).map fun (shelf, summary) => (⟨tree, shelf, validatorOf shelf⟩, summary)

/-- Writes a file. -/
def put (s : Session) (path : String) (bytes : List UInt8) : Session := { s with tree := s.tree.put path bytes }

/-- Removes a file. -/
def remove (s : Session) (path : String) : Session := { s with tree := s.tree.remove path }

/-- Starts over with the rule book of a directory, with nothing compiled and a new validator; on failure all
stays as it was. -/
def load (s : Session) (directory : String) : Except StandardsError RuleBookSummary × Session :=
  match start s.tree directory with
  | .ok (started, summary) => (.ok summary, started)
  | .error e => (.error e, s)

/-- Reads the rule book of a directory in place of the one on the shelf; the validator stays. -/
def reload (s : Session) (directory : String) : Except StandardsError RuleBookSummary × Session :=
  let (answer, shelf) := s.shelf.reload s.tree directory
  (answer, { s with shelf })

/-- Binds a new validator to the rule book on the shelf. -/
def bind (s : Session) : Session := { s with validator := validatorOf s.shelf }

/-- Runs a computation of the session that compiles formats. -/
def compute {ε α : Type} (s : Session) (step : Compiling ε α) : Except ε α × Session :=
  let (answer, formats) := step s.shelf.formats
  (answer, { s with shelf := { s.shelf with formats } })

/-- Asks the validator. -/
def ask {α : Type} (s : Session) (question : Validator → Compiling ValidatorError α) :
    Except ValidatorError α × Session :=
  s.compute (question s.validator)

end Session

end DocumentaryCredit

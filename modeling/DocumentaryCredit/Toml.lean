/-
TOML documents, in which rule books list their files and users keep their settings. The statements of a document
are put together to one object.
-/
import DocumentaryCredit.Toml.Statement

namespace DocumentaryCredit.Toml

/-- A document that is being put together: its members and the path of the table that keys now go to. -/
structure Draft where
  members : Members := []
  current : List String := []

namespace Draft

/-- Opens the table of a header. -/
def openTable? (d : Draft) (path : List String) : Option Draft := do
  let name ← path.getLast?
  let members ← within? false (fun _ members => edit? members name fun
    | none => some (.table .header [])
    | some (.table .implied inner) => some (.table .header inner)
    | some _ => none) path.dropLast .header d.members
  return ⟨members, path⟩

/-- Opens the next table of an array of tables. -/
def openItem? (d : Draft) (path : List String) : Option Draft := do
  let name ← path.getLast?
  let members ← within? false (fun _ members => edit? members name fun
    | none => some (.tables [] [])
    | some (.tables closed last) => some (.tables (closed ++ [.object (membersJson last)]) [])
    | some _ => none) path.dropLast .header d.members
  return ⟨members, path⟩

/-- Adds a key with its value to the current table. -/
def addPair? (d : Draft) (path : List String) (value : Json) : Option Draft := do
  let members ← within? false (Toml.addPair? path value) d.current .header d.members
  return { d with members }

/-- Adds a statement. -/
def add? (d : Draft) : Statement → Option Draft
  | .table path => d.openTable? path
  | .item path => d.openItem? path
  | .pair path value => d.addPair? path value

end Draft

/-- Reads a TOML document as the JSON object of the same shape. -/
def read? (s : String) : Option Json := do
  let cs := match s.toList with
    | c :: rest => if c.toNat = 0xFEFF then rest else c :: rest
    | [] => []
  let statements ← readStatements? (cs.length + 1) cs
  let draft ← statements.foldlM Draft.add? {}
  return .object (membersJson draft.members)

end DocumentaryCredit.Toml

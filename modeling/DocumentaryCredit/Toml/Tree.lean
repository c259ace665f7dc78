/-
The tables of a TOML document while it is read. No key may be given twice: a header opens a table that no header
has opened before, and dotted keys only go on with tables that dotted keys began.
-/
import DocumentaryCredit.Json

namespace DocumentaryCredit.Toml

/-- How a table came to be. -/
inductive Origin where
  /-- By a header of its own. -/
  | header
  /-- As a part of the path of a header. -/
  | implied
  /-- By a dotted key. -/
  | dotted
deriving DecidableEq

/-- A part of a document that is being put together. -/
inductive Node where
  | value (j : Json)
  | table (origin : Origin) (members : List (String × Node))
  /-- An array of tables; the last one is still open. -/
  | tables (closed : List Json) (last : List (String × Node))

/-- The members of a table. -/
abbrev Members := List (String × Node)

mutual

/-- The value of a part. -/
def Node.toJson : Node → Json
  | .value j => j
  | .table _ members => .object (membersJson members)
  | .tables closed last => .array (closed ++ [.object (membersJson last)])

/-- The values of the members of a table. -/
def membersJson : List (String × Node) → List (String × Json)
  | [] => []
  | (name, node) :: rest => (name, node.toJson) :: membersJson rest

end

/-- Changes the member of a name, which may be absent. -/
def edit? (members : Members) (name : String) (f : Option Node → Option Node) : Option Members :=
  match members with
  | [] => (f none).map fun node => [(name, node)]
  | (first, node) :: rest =>
    if first == name then (f (some node)).map fun node => (name, node) :: rest
    else (edit? rest name f).map fun rest => (first, node) :: rest

/-- Changes the table at the end of a path. Tables on the way come to be as the path is given: dotted or by a
header; a dotted path does not go into a table that has a header. -/
def within? (dotted : Bool) (change : Origin → Members → Option Members) :
    List String → Origin → Members → Option Members
  | [], origin, members => change origin members
  | name :: path, _, members =>
    edit? members name fun
      | none =>
        let origin := if dotted then .dotted else .implied
        (within? dotted change path origin []).map (.table origin)
      | some (.table origin inner) =>
        if dotted && origin = .header then none
        else (within? dotted change path origin inner).map (.table origin)
      | some (.tables closed last) => (within? dotted change path .header last).map (.tables closed)
      | some (.value _) => none

/-- Adds a key with its value to a table. -/
def addPair? (path : List String) (value : Json) (origin : Origin) (members : Members) : Option Members := do
  let name ← path.getLast?
  let parents := path.dropLast
  within? true (fun origin members =>
    if !parents.isEmpty && origin ≠ .dotted then none
    else edit? members name fun
      | none => some (.value value)
      | some _ => none) parents origin members

end DocumentaryCredit.Toml

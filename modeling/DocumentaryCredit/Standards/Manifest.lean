/-
Manifests: what a rule book lists of itself. A manifest names the releases the book was taken from and pins each
of its tables by path and hash; each table has a role.
-/
import DocumentaryCredit.FileTree
import DocumentaryCredit.Json.Record
import DocumentaryCredit.Text.Printable
import DocumentaryCredit.Toml

namespace DocumentaryCredit

/-- The releases that a rule book was taken from. -/
structure Pins where
  swiftMt : String
  ucp : String
deriving DecidableEq

/-- A table that a manifest lists. -/
structure ManifestFile where
  path : String
  sha256 : String
  kind : String
  role : String
  notes : Option String
deriving DecidableEq

/-- A manifest. -/
structure Manifest where
  /-- The name of the layout of manifests. -/
  schema : String
  schemaVersion : Nat
  pins : Pins
  files : List ManifestFile

/-! ## One entry -/

/-- What is wrong with an entry of a manifest. -/
inductive EntryFault where
  | unknownRole (role path : String)
  | unsupportedKind (kind path : String)
  | malformedHash (path hash : String)
  /-- The path has a backslash. -/
  | backslash (path : String)
  | absolutePath (path : String)
  /-- The path goes back. -/
  | escapingPath (path : String)
deriving DecidableEq

namespace EntryFault

/-- The message of a fault. -/
def toText : EntryFault → String
  | unknownRole role path => "invalid manifest: unknown role '" ++ role ++ "' for " ++ path
  | unsupportedKind kind path => "invalid manifest: unsupported kind '" ++ kind ++ "' for " ++ path
  | malformedHash path hash =>
    "invalid sha256 for " ++ path ++ ": expected 64 hex characters, got " ++ Text.quoted hash
  | backslash path => "invalid manifest path " ++ path ++ ": use '/' separators"
  | absolutePath path => "invalid manifest path " ++ path ++ ": must be relative"
  | escapingPath path => "invalid manifest path " ++ path ++ ": must stay inside the standards directory"

end EntryFault

namespace ManifestFile

/-- The roles that a rule book must have. -/
def requiredRoles : List String := ["messages", "fields", "rules"]

/-- The roles that a rule book may have. -/
def optionalRoles : List String := ["ucp_rules"]

/-- The kinds of files. -/
def allowedKinds : List String := ["csv", "toml", "other"]

/-- Whether the role is one of the known ones. -/
def hasKnownRole (f : ManifestFile) : Bool := requiredRoles.contains f.role || optionalRoles.contains f.role

/-- Whether a text is the hexadecimal form of a hash. -/
def isHash (s : String) : Bool := s.length = 64 && s.toList.all fun c => (Text.hexValue? c).isSome

/-- The path of the table from the directory of the rule book, in which it must stay. -/
def relativePath (f : ManifestFile) : Except EntryFault String :=
  if f.path.toList.contains '\\' then .error (.backslash f.path)
  else if f.path.toList.head? = some '/' then .error (.absolutePath f.path)
  else if (Path.components f.path).contains ".." then .error (.escapingPath f.path)
  else .ok f.path

/-- Checks an entry by itself; the answer is its path. -/
def check (f : ManifestFile) : Except EntryFault String :=
  if !f.hasKnownRole then .error (.unknownRole f.role f.path)
  else if !allowedKinds.contains f.kind then .error (.unsupportedKind f.kind f.path)
  else if !isHash f.sha256 then .error (.malformedHash f.path f.sha256)
  else f.relativePath

end ManifestFile

/-! ## Reading -/

/-- Reads the entry of a table. -/
def ManifestFile.ofJson? (j : Json) : Option ManifestFile := do
  let r ← j.record? ["path", "sha256", "kind", "role", "notes"]
  return {
    path := ← r.required "path" Json.text?
    sha256 := ← r.required "sha256" Json.text?
    kind := ← r.required "kind" Json.text?
    role := ← r.required "role" Json.text?
    notes := ← r.withDefault "notes" none (Json.option? Json.text?) }

namespace Manifest

/-- Reads the name and version of the layout. -/
def headerOfJson? (j : Json) : Option (String × Nat) := do
  let r ← j.record? ["schema", "schema_version"]
  return (← r.required "schema" Json.text?, ← r.required "schema_version" (Json.nat? Text.maxNat32))

/-- Reads the remarks on a rule book, of which nothing is kept. -/
def notesOfJson? (j : Json) : Option (Option String) := do
  let r ← j.record? ["summary"]
  r.optional "summary" Json.text?

/-- Reads the releases. -/
def pinsOfJson? (j : Json) : Option Pins := do
  let r ← j.record? ["swift_mt", "ucp"]
  return ⟨← r.required "swift_mt" Json.text?, ← r.required "ucp" Json.text?⟩

/-- Reads a manifest. -/
def ofJson? (j : Json) : Option Manifest := do
  let r ← j.record? ["manifest", "notes", "pins", "files"]
  let (schema, schemaVersion) ← r.required "manifest" headerOfJson?
  let _ ← r.withDefault "notes" none (Json.option? notesOfJson?)
  return {
    schema, schemaVersion
    pins := ← r.required "pins" pinsOfJson?
    files := ← r.required "files" (Json.list? ManifestFile.ofJson?) }

/-- Reads a manifest from the text of its file. -/
def read? (s : String) : Option Manifest := (Toml.read? s).bind ofJson?

end Manifest

end DocumentaryCredit

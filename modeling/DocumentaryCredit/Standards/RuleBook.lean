/-
Rule books: the schemas of the message types and the articles of UCP 600, read from a directory. The directory
must hold exactly the files that its manifest lists, each with the hash that the manifest pins; the tables must
fit together, and every field must have a format. Otherwise there is no rule book.
-/
import DocumentaryCredit.Format.Cache
import DocumentaryCredit.Sha256
import DocumentaryCredit.Standards.Tables

namespace DocumentaryCredit

-- Sums of whole numbers are those of the core library, whatever else is in scope.
attribute [local instance (high)] Zero.ofOfNat0

/-- A rule book. -/
structure RuleBook where
  manifest : Manifest
  /-- The files in the order of their paths. -/
  files : List ManifestFile
  schemas : TextMap Schema
  articles : List ClassificationRule

/-- What a rule book was read from, in numbers. -/
structure RuleBookSummary where
  directory : String
  pins : Pins
  fileCount : Nat
  messageTypeCount : Nat
  fieldCount : Nat
  ruleCount : Nat
  articleCount : Nat

/-- A computation that compiles formats and fails as a rule book does. -/
abbrev Loading (α : Type) := Compiling StandardsError α

/-! ## The manifest and its files -/

/-- The name of the layout of manifests. -/
def manifestSchema : String := "lc-checker.standards-manifest"

/-- Checks the entries of a manifest one after another; the answer is the paths that they list. -/
def checkEntries (roles : List String) : List ManifestFile → Except StandardsError (List String)
  | [] => .ok []
  | f :: rest =>
    if roles.contains f.role then .error (.duplicateRole f.role)
    else match f.check with
      | .error fault => .error (.entry fault)
      | .ok path => (checkEntries (f.role :: roles) rest).map (path :: ·)

/-- Reads a manifest and checks what it says. -/
def readManifest (tree : FileTree) (directory : String) : Except StandardsError Manifest := do
  let path := Path.join directory "manifest.toml"
  let text ← (tree.readText path).mapError (.file path)
  let some manifest := Manifest.read? text | .error (.manifestText path)
  if manifest.schema ≠ manifestSchema then .error (.schema manifest.schema)
  else if manifest.schemaVersion ≠ 1 then .error (.schemaVersion manifest.schemaVersion)
  else return manifest

/-- Checks that the files below a directory are those that its manifest lists. -/
def checkFiles (tree : FileTree) (directory : String) (manifest : Manifest) : Except StandardsError Unit := do
  let paths ← checkEntries [] manifest.files
  match ManifestFile.requiredRoles.find? fun role => !manifest.files.any (·.role == role) with
  | some role => .error (.missingRole role)
  | none =>
    let listed := ["manifest.toml"] :: paths.map Path.components
    let found ← (tree.filesBelow directory).mapError (.file directory)
    match found.find? (!listed.contains ·) with
    | some parts => .error (.unexpectedFile (Path.join directory ("/".intercalate parts)))
    | none => .ok ()

/-- Reads a listed file, whose bytes must have the pinned hash. -/
def verifyFile (tree : FileTree) (directory : String) (f : ManifestFile) :
    Except StandardsError (ManifestFile × List UInt8) :=
  let path := Path.join directory f.path
  match tree.read path with
  | .error .notFound => .error (.missingFile path)
  | .error cause => .error (.file path cause)
  | .ok bytes =>
    let expected := Text.asciiLower f.sha256
    let actual := Sha256.hexHash bytes
    if actual = expected then .ok (f, bytes) else .error (.hashMismatch path expected actual)

/-- The path and the bytes of the file of a role. -/
def fileOfRole? (directory : String) (files : List (ManifestFile × List UInt8)) (role : String) :
    Option (String × List UInt8) :=
  (files.find? (·.1.role == role)).map fun (f, bytes) => (Path.join directory f.path, bytes)

/-- The path and the bytes of the file of a role that must be there. -/
def fileOfRole (directory : String) (files : List (ManifestFile × List UInt8)) (role : String) :
    Except StandardsError (String × List UInt8) :=
  match fileOfRole? directory files role with
  | some found => .ok found
  | none => .error (.missingRole role)

/-! ## Putting the tables together -/

/-- The rows of the tables of a rule book. -/
structure Tables where
  messages : List MessageRow
  fields : List FieldRow
  rules : List RuleRow

namespace Tables

/-- The fields of a message type. -/
def fieldsOf (t : Tables) (messageType : String) : List FieldDefinition :=
  (t.fields.filter (·.messageType = messageType)).map (·.definition)

/-- Whether a message type has a field. -/
def hasField (t : Tables) (messageType tag : String) : Bool :=
  t.messages.any (·.messageType = messageType) &&
    (t.fieldsOf messageType).any fun f => Text.equalIgnoringCase f.tag tag

/-- The rules of a field. -/
def rulesOf (t : Tables) (messageType tag : String) : List FieldRule :=
  (t.rules.filter fun r => r.messageType = messageType && Text.equalIgnoringCase tag r.tag).map (·.rule)

/-- The field that a rule needs and that its message type does not have. -/
def undefinedTag? (t : Tables) (r : RuleRow) : Option String :=
  match r.rule with
  | .crossField cross =>
    if !t.hasField r.messageType cross.otherTag then some cross.otherTag
    else if t.hasField r.messageType r.tag then none
    else some r.tag
  | _ => if t.hasField r.messageType r.tag then none else some r.tag

/-- Checks that every field belongs to a message type that is listed. -/
def checkFields (t : Tables) (path : String) : Except StandardsError Unit :=
  match t.fields.find? fun f => !t.messages.any (·.messageType = f.messageType) with
  | some f => .error (.undefinedMessageType path f.messageType)
  | none => .ok ()

/-- Checks that every rule has the fields that it needs. -/
def checkRules (t : Tables) (path : String) : Except StandardsError Unit :=
  match t.rules.findSome? fun r => (t.undefinedTag? r).map fun tag => (r.messageType, tag) with
  | some (messageType, tag) => .error (.undefinedField path messageType tag)
  | none => .ok ()

/-- The schema of a message type, its fields in the order of their sequence numbers. -/
def schema (t : Tables) (m : MessageRow) : Schema where
  messageType := m.messageType
  name := m.name
  version := m.version
  fields := ((t.fieldsOf m.messageType).map fun f => { f with rules := t.rulesOf m.messageType f.tag }).mergeSort
    fun a b => a.sequence ≤ b.sequence

end Tables

namespace Schema

/-- The first tag that fields have twice. -/
def duplicateTag? (seen : List String) : List FieldDefinition → Option String
  | [] => none
  | f :: rest => if seen.contains f.tag then some f.tag else duplicateTag? (f.tag :: seen) rest

/-- The first two neighbouring fields that have one sequence number. -/
def duplicateSequence? : List FieldDefinition → Option (FieldDefinition × FieldDefinition)
  | a :: b :: rest => if a.sequence = b.sequence then some (a, b) else duplicateSequence? (b :: rest)
  | _ => none

/-- Checks a schema and compiles the formats of its fields. -/
def check (schema : Schema) : Loading Unit := do
  match duplicateTag? [] schema.fields with
  | some tag => throw (.duplicateTag schema.messageType tag)
  | none =>
    match duplicateSequence? schema.fields with
    | some (a, b) => throw (.duplicateSequence schema.messageType a.sequence a.tag b.tag)
    | none =>
      for f in schema.fields do
        let _ ← compiling (.format schema.messageType f.tag) f.formatSpec

end Schema

/-! ## Loading -/

namespace RuleBook

/-- A step that compiles nothing. -/
def lift {α : Type} (step : Except StandardsError α) : Loading α := fun cache => (step, cache)

/-- Reads the rule book of a directory. -/
def load (tree : FileTree) (directory : String) : Loading (RuleBook × RuleBookSummary) := do
  let manifest ← lift (readManifest tree directory)
  lift (checkFiles tree directory manifest)
  let files := manifest.files.mergeSort fun a b => decide (a.path ≤ b.path)
  let verified ← lift (files.mapM (verifyFile tree directory))
  let (messagesPath, messagesBytes) ← lift (fileOfRole directory verified "messages")
  let (fieldsPath, fieldsBytes) ← lift (fileOfRole directory verified "fields")
  let (rulesPath, rulesBytes) ← lift (fileOfRole directory verified "rules")
  let messages ← lift (readMessages messagesPath messagesBytes)
  let fields ← lift (readFields fieldsPath fieldsBytes)
  let rules ← lift (readRules rulesPath rulesBytes)
  let tables : Tables := ⟨messages, fields, rules⟩
  lift (tables.checkFields fieldsPath)
  lift (tables.checkRules rulesPath)
  let schemas := tables.messages.map tables.schema
  for schema in schemas do
    schema.check
  let articles ← match fileOfRole? directory verified "ucp_rules" with
    | some (path, bytes) => lift (readArticles path bytes)
    | none => pure []
  let book : RuleBook := {
    manifest, files, articles
    schemas := TextMap.ofList (schemas.map fun schema => (schema.messageType, schema)) }
  return (book, {
    directory
    pins := manifest.pins
    fileCount := files.length
    messageTypeCount := book.schemas.size
    fieldCount := (schemas.map (·.fields.length)).sum
    ruleCount := rules.length
    articleCount := articles.length })

/-- The schema of a message type, with or without `MT` in front of its code. -/
def schema (book : RuleBook) (messageType : String) : Except StandardsError Schema :=
  let code := normalizeMessageType messageType
  match book.schemas.get? code with
  | some schema => .ok schema
  | none => .error (.unknownMessageType code)

/-- The table of the articles. -/
def ruleTable (book : RuleBook) : RuleTable := RuleTable.ofRules book.articles

end RuleBook

end DocumentaryCredit

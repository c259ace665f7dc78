/-
What a rule book was read from. A rule book can be loaded only if its manifest fits the directory (`Manifest.Fits`) and
every listed file has the hash that the manifest pins; each table is then read from the file of its role
(`Manifest.Table`). All that the steps of loading say of a rule book is stated once, in `RuleBook.Loaded`.
-/
import DocumentaryCredit.Proofs.Computation
import DocumentaryCredit.Proofs.FileTree
import DocumentaryCredit.Standards.RuleBook

namespace DocumentaryCredit

section Directory

variable {tree : FileTree} {directory : String} {manifest : Manifest} {f : ManifestFile}

/-! ## The manifest and its entries -/

/-- A manifest is read off the text of its file. -/
theorem readManifest_of_read {text : String}
    (hread : tree.read (Path.join directory "manifest.toml") = .ok (Text.toBytes text))
    (htext : Manifest.read? text = some manifest) (hschema : manifest.schema = manifestSchema)
    (hversion : manifest.schemaVersion = 1) : readManifest tree directory = .ok manifest := by
  unfold readManifest
  simp [FileTree.readText_of_read hread, Except.mapError, htext, hschema, hversion, bind, Except.bind, pure,
    Except.pure]

/-- An entry that passes its check has a relative path, which does not go back. -/
theorem ManifestFile.of_check {path : String} (h : f.check = .ok path) :
    path = f.path ∧ f.path.toList.head? ≠ some '/' ∧ ".." ∉ Path.components f.path := by
  unfold check at h
  split at h
  · cases h
  split at h
  · cases h
  split at h
  · cases h
  unfold relativePath at h
  split at h
  · cases h
  split at h
  · cases h
  next habsolute =>
  split at h
  · cases h
  next hback =>
    exact ⟨(Except.ok.inj h).symm, habsolute, by simpa using hback⟩

/-- Entries pass if each passes its own check and no role is given twice. -/
theorem checkEntries_eq_ok_iff : ∀ {seen paths : List String} {files : List ManifestFile},
    checkEntries seen files = .ok paths ↔
      (files.map (·.role)).Nodup ∧ (∀ f ∈ files, f.role ∉ seen) ∧ (∀ f ∈ files, f.check = .ok f.path) ∧
        paths = files.map (·.path)
  | seen, paths, [] => by
    simp [checkEntries, eq_comm]
  | seen, paths, f :: files => by
    unfold checkEntries
    split
    · next hold => simp_all
    next hnew =>
    split
    · next fault hcheck => simp [hcheck]
    next path hcheck =>
    obtain ⟨rfl, -, -⟩ := ManifestFile.of_check hcheck
    simp only [Except.map_eq_ok_iff, checkEntries_eq_ok_iff]
    simp only [List.contains_eq_mem, decide_eq_true_eq] at hnew
    constructor
    · rintro ⟨_, ⟨hnodup, hseen, hchecks, rfl⟩, rfl⟩
      refine ⟨List.nodup_cons.2 ⟨fun hmem => ?_, hnodup⟩, List.forall_mem_cons.2 ⟨hnew, fun g hg hmem => ?_⟩,
        List.forall_mem_cons.2 ⟨hcheck, hchecks⟩, rfl⟩
      · obtain ⟨g, hg, hrole⟩ := List.mem_map.1 hmem
        exact hseen g hg (by simp [hrole])
      · exact hseen g hg (List.mem_cons_of_mem _ hmem)
    · rintro ⟨hnodup, hseen, hchecks, rfl⟩
      obtain ⟨hrole, hnodup⟩ := List.nodup_cons.1 hnodup
      refine ⟨_, ⟨hnodup, fun g hg => ?_, (List.forall_mem_cons.1 hchecks).2, rfl⟩, rfl⟩
      rw [List.mem_cons, not_or]
      exact ⟨fun heq => hrole (List.mem_map.2 ⟨g, hg, heq⟩), (List.forall_mem_cons.1 hseen).2 g hg⟩

/-- A manifest fits its directory: no role is given twice, those that are needed are there, each entry passes its check,
and all files below the directory are listed. -/
structure Manifest.Fits (manifest : Manifest) (tree : FileTree) (directory : String) : Prop where
  directory_ne : directory ≠ ""
  roles : (manifest.files.map (·.role)).Nodup
  required : ∀ role ∈ ManifestFile.requiredRoles, ∃ f ∈ manifest.files, f.role = role
  entries : ∀ f ∈ manifest.files, f.check = .ok f.path
  listed : ∀ parts bytes, parts ≠ [] → (Path.place directory ++ parts, bytes) ∈ tree.files →
    parts = ["manifest.toml"] ∨ ∃ f ∈ manifest.files, Path.components f.path = parts

theorem checkFiles_eq_ok_iff : checkFiles tree directory manifest = .ok () ↔ manifest.Fits tree directory := by
  unfold checkFiles
  constructor
  · intro h
    obtain ⟨paths, hpaths, h⟩ := Except.bind_eq_ok_iff.1 h
    obtain ⟨hroles, -, hentries, rfl⟩ := checkEntries_eq_ok_iff.1 hpaths
    split at h
    · cases h
    next hrequired =>
    obtain ⟨found, hfound, h⟩ := Except.bind_eq_ok_iff.1 h
    replace hfound : tree.filesBelow directory = .ok found := by
      cases hbelow : tree.filesBelow directory <;> rw [hbelow] at hfound <;> cases hfound
      rfl
    split at h
    · cases h
    next hlisted =>
    refine ⟨FileTree.exists_filesBelow_iff.1 ⟨found, hfound⟩, hroles, ?_, hentries, fun parts bytes hne hmem => ?_⟩
    · simpa using hrequired
    · have hparts := List.find?_eq_none.1 hlisted parts ((FileTree.mem_filesBelow_iff hfound).2 ⟨hne, bytes, hmem⟩)
      simpa [or_iff_not_imp_left] using hparts
  · intro h
    obtain ⟨found, hfound⟩ := FileTree.exists_filesBelow_iff.2 h.directory_ne
    have hrequired : (ManifestFile.requiredRoles.find? fun role => !manifest.files.any (·.role == role)) = none := by
      simpa using h.required
    have hlisted : found.find?
        (!(["manifest.toml"] :: (manifest.files.map (·.path)).map Path.components).contains ·) = none := by
      refine List.find?_eq_none.2 fun parts hparts => ?_
      obtain ⟨hne, bytes, hmem⟩ := (FileTree.mem_filesBelow_iff hfound).1 hparts
      simpa [or_iff_not_imp_left] using h.listed parts bytes hne hmem
    rw [checkEntries_eq_ok_iff.2 ⟨h.roles, by simp, h.entries, rfl⟩, hrequired, hfound]
    simp only [bind, Except.bind, Except.mapError, hlisted]

/-! ## Files with their hashes -/

theorem verifyFile_eq_ok_iff {g : ManifestFile} {bytes : List UInt8} : verifyFile tree directory f = .ok (g, bytes) ↔
    f = g ∧ tree.read (Path.join directory f.path) = .ok bytes ∧ Sha256.hexHash bytes = Text.asciiLower f.sha256 := by
  unfold verifyFile
  simp only
  split
  · next h => simp [h]
  · next h => simp [h]
  · next found h =>
    split
    · next hhash =>
      rw [h]
      simp only [Except.ok.injEq, Prod.mk.injEq]
      constructor
      · rintro ⟨rfl, rfl⟩
        exact ⟨rfl, rfl, hhash⟩
      · rintro ⟨rfl, rfl, -⟩
        exact ⟨rfl, rfl⟩
    · next hhash =>
      rw [h]
      simp only [reduceCtorEq, Except.ok.injEq, false_iff]
      rintro ⟨-, rfl, hhash'⟩
      exact hhash hhash'

/-- The file of a role is listed, and its bytes have the hash that is pinned. -/
structure Manifest.Holds (manifest : Manifest) (tree : FileTree) (directory role : String) (f : ManifestFile)
    (bytes : List UInt8) : Prop where
  mem : f ∈ manifest.files
  role_eq : f.role = role
  read : tree.read (Path.join directory f.path) = .ok bytes
  hash : Sha256.hexHash bytes = Text.asciiLower f.sha256

/-- The rows are those of the file of a role. -/
def Manifest.Table {α : Type} (manifest : Manifest) (tree : FileTree) (directory role : String)
    (readRows : String → List UInt8 → Except StandardsError (List α)) (rows : List α) : Prop :=
  ∃ f bytes, manifest.Holds tree directory role f bytes ∧ readRows (Path.join directory f.path) bytes = .ok rows

section Verified

variable {files : List ManifestFile} {verified : List (ManifestFile × List UInt8)} {role path : String}
  {bytes : List UInt8} (hfiles : ∀ f ∈ files, f ∈ manifest.files)
  (hverified : files.mapM (verifyFile tree directory) = .ok verified)

include hfiles hverified

theorem exists_of_fileOfRole? (h : fileOfRole? directory verified role = some (path, bytes)) :
    ∃ f, manifest.Holds tree directory role f bytes ∧ path = Path.join directory f.path := by
  obtain ⟨⟨f, found⟩, hfind, heq⟩ := Option.map_eq_some_iff.1 h
  cases heq
  obtain ⟨g, hg, hverify⟩ :=
    exists_of_mem_of_forall₂ (Except.mapM_eq_ok_iff.1 hverified) (List.mem_of_find?_eq_some hfind)
  obtain ⟨rfl, hread, hhash⟩ := verifyFile_eq_ok_iff.1 hverify
  exact ⟨g, ⟨hfiles g hg, by simpa using List.find?_some hfind, hread, hhash⟩, rfl⟩

theorem table_of_fileOfRole {α : Type} {readRows : String → List UInt8 → Except StandardsError (List α)} {rows : List α}
    (h : fileOfRole directory verified role = .ok (path, bytes)) (hrows : readRows path bytes = .ok rows) :
    manifest.Table tree directory role readRows rows := by
  unfold fileOfRole at h
  split at h
  · next found hfound =>
    cases h
    obtain ⟨f, hholds, rfl⟩ := exists_of_fileOfRole? hfiles hverified hfound
    exact ⟨f, bytes, hholds, hrows⟩
  · cases h

omit hfiles in
/-- Every file has been verified. -/
theorem exists_verified (hf : f ∈ files) : ∃ bytes, (f, bytes) ∈ verified ∧
    tree.read (Path.join directory f.path) = .ok bytes ∧ Sha256.hexHash bytes = Text.asciiLower f.sha256 := by
  obtain ⟨⟨g, bytes⟩, hmem, hverify⟩ := exists_of_mem_of_forall₂ (Except.mapM_eq_ok_iff.1 hverified).flip hf
  obtain ⟨rfl, hread, hhash⟩ := verifyFile_eq_ok_iff.1 hverify
  exact ⟨bytes, hmem, hread, hhash⟩

omit hfiles in
theorem role_ne_of_fileOfRole? (h : fileOfRole? directory verified role = none) (hf : f ∈ files) : f.role ≠ role := by
  intro hrole
  obtain ⟨bytes, hmem, -⟩ := exists_verified hverified hf
  exact absurd (Option.map_eq_none_iff.1 h) (by simpa using ⟨f, ⟨bytes, hmem⟩, hrole⟩)

end Verified

/-! ## Rule books -/

/-- A rule book was read from a directory: its manifest is the one there, and its tables are those that the manifest
lists. Articles there need not be. -/
structure RuleBook.ReadFrom (book : RuleBook) (tree : FileTree) (directory : String) (t : Tables) : Prop where
  manifest : readManifest tree directory = .ok book.manifest
  roles : (book.manifest.files.map (·.role)).Nodup
  messages : book.manifest.Table tree directory "messages" readMessages t.messages
  fields : book.manifest.Table tree directory "fields" readFields t.fields
  rules : book.manifest.Table tree directory "rules" readRules t.rules
  articles : book.manifest.Table tree directory "ucp_rules" readArticles book.articles ∨
    (∀ f ∈ book.manifest.files, f.role ≠ "ucp_rules") ∧ book.articles = []

/-- What is known of a rule book that has been loaded: its directory is as the manifest has it, its tables fit
together, and each of its schemas passes its check. -/
structure RuleBook.Loaded (book : RuleBook) (summary : RuleBookSummary) (tree : FileTree) (directory : String)
    (t : Tables) : Prop extends book.ReadFrom tree directory t where
  fits : book.manifest.Fits tree directory
  intact : ∀ f ∈ book.manifest.files, ∃ bytes, tree.read (Path.join directory f.path) = .ok bytes ∧
    Sha256.hexHash bytes = Text.asciiLower f.sha256
  fieldsChecked : ∃ path, t.checkFields path = .ok ()
  rulesChecked : ∃ path, t.checkRules path = .ok ()
  schemasChecked : ∀ m ∈ t.messages, ((t.schema m).check {}).1 = .ok ()
  schemas : book.schemas = TextMap.ofList (t.messages.map fun m => (m.messageType, t.schema m))
  fieldCount : summary.fieldCount = (t.messages.map fun m => (t.schema m).fields.length).sum
  ruleCount : summary.ruleCount = t.rules.length

theorem RuleBook.lift_bind_eq_ok_iff {α β : Type} {step : Except StandardsError α} {next : α → Loading β}
    {cache cache' : FormatCache} {b : β} : (lift step >>= next) cache = (.ok b, cache') ↔
      ∃ a, step = .ok a ∧ next a cache = (.ok b, cache') := by
  rw [Compiling.bind_apply]
  cases step with
  | ok a => simp [lift]
  | error e =>
    simp only [reduceCtorEq, false_and, exists_false, iff_false]
    exact nofun

theorem RuleBook.lift_bind_of_ok {α β : Type} {step : Except StandardsError α} {next : α → Loading β} {a : α}
    (h : step = .ok a) : (lift step >>= next) = next a := by
  subst h
  rfl

theorem RuleBook.steady_lift {α : Type} (step : Except StandardsError α) : Compiling.Steady (lift step) :=
  fun _ hcache => ⟨rfl, hcache⟩

theorem Schema.steady_check (schema : Schema) : Compiling.Steady schema.check := by
  unfold check
  split
  · exact .throw _
  split
  · exact .throw _
  · exact (Compiling.Steady.forEach (fun _ => Compiling.steady_compiling _ _) _).bind fun _ => .pure _

theorem RuleBook.steady_load (tree : FileTree) (directory : String) : Compiling.Steady (load tree directory) := by
  unfold load
  refine (steady_lift _).bind fun manifest => (steady_lift _).bind fun _ => (steady_lift _).bind fun verified => ?_
  refine (steady_lift _).bind fun ⟨_, _⟩ => (steady_lift _).bind fun ⟨_, _⟩ => (steady_lift _).bind fun ⟨_, _⟩ => ?_
  refine (steady_lift _).bind fun messages => (steady_lift _).bind fun fields => (steady_lift _).bind fun rules => ?_
  refine (steady_lift _).bind fun _ => (steady_lift _).bind fun _ => ?_
  refine (Compiling.Steady.forEach Schema.steady_check _).bind fun _ => ?_
  split
  · exact (steady_lift _).bind fun _ => .pure _
  · exact (Compiling.Steady.pure _).bind fun _ => .pure _

theorem RuleBook.exists_loaded {cache cache' : FormatCache} {book : RuleBook} {summary : RuleBookSummary}
    (hcache : cache.Reachable) (h : load tree directory cache = (.ok (book, summary), cache')) :
    ∃ t, book.Loaded summary tree directory t := by
  unfold load at h
  obtain ⟨manifest, hmanifest, h⟩ := lift_bind_eq_ok_iff.1 h
  obtain ⟨⟨⟩, hcheck, h⟩ := lift_bind_eq_ok_iff.1 h
  obtain ⟨verified, hverified, h⟩ := lift_bind_eq_ok_iff.1 h
  obtain ⟨⟨messagesPath, messagesBytes⟩, hmessagesFile, h⟩ := lift_bind_eq_ok_iff.1 h
  obtain ⟨⟨fieldsPath, fieldsBytes⟩, hfieldsFile, h⟩ := lift_bind_eq_ok_iff.1 h
  obtain ⟨⟨rulesPath, rulesBytes⟩, hrulesFile, h⟩ := lift_bind_eq_ok_iff.1 h
  obtain ⟨messages, hmessages, h⟩ := lift_bind_eq_ok_iff.1 h
  obtain ⟨fields, hfields, h⟩ := lift_bind_eq_ok_iff.1 h
  obtain ⟨rules, hrules, h⟩ := lift_bind_eq_ok_iff.1 h
  obtain ⟨⟨⟩, hcheckFields, h⟩ := lift_bind_eq_ok_iff.1 h
  obtain ⟨⟨⟩, hcheckRules, h⟩ := lift_bind_eq_ok_iff.1 h
  obtain ⟨⟨⟩, formats, hchecked, h⟩ := Compiling.bind_eq_ok_iff.1 h
  replace hchecked := Compiling.exists_of_forEach Schema.steady_check hcache hchecked
  have hfiles : ∀ f ∈ manifest.files.mergeSort fun a b => decide (a.path ≤ b.path), f ∈ manifest.files := fun f =>
    List.mem_mergeSort.1
  let t : Tables := ⟨messages, fields, rules⟩
  have hend : ∃ articles, (manifest.Table tree directory "ucp_rules" readArticles articles ∨
      (∀ f ∈ manifest.files, f.role ≠ "ucp_rules") ∧ articles = []) ∧
      book = ⟨manifest, manifest.files.mergeSort fun a b => decide (a.path ≤ b.path),
        TextMap.ofList ((t.messages.map t.schema).map fun schema => (schema.messageType, schema)), articles⟩ ∧
      summary.fieldCount = ((t.messages.map t.schema).map (·.fields.length)).sum ∧
      summary.ruleCount = t.rules.length := by
    cases hfile : fileOfRole? directory verified "ucp_rules" with
    | some found =>
      obtain ⟨path, bytes⟩ := found
      rw [hfile] at h
      obtain ⟨articles, harticles, h⟩ := lift_bind_eq_ok_iff.1 h
      obtain ⟨heq, -⟩ := Compiling.pure_eq_ok_iff.1 h
      obtain ⟨rfl, rfl⟩ := Prod.mk.inj heq
      obtain ⟨f, hholds, rfl⟩ := exists_of_fileOfRole? hfiles hverified hfile
      exact ⟨articles, .inl ⟨f, bytes, hholds, harticles⟩, rfl, rfl, rfl⟩
    | none =>
      rw [hfile] at h
      obtain ⟨_, _, hnone, h⟩ := Compiling.bind_eq_ok_iff.1 h
      obtain ⟨rfl, rfl⟩ := Compiling.pure_eq_ok_iff.1 hnone
      obtain ⟨heq, -⟩ := Compiling.pure_eq_ok_iff.1 h
      obtain ⟨rfl, rfl⟩ := Prod.mk.inj heq
      exact ⟨[], .inr ⟨fun f hf => role_ne_of_fileOfRole? hverified hfile (List.mem_mergeSort.2 hf), rfl⟩, rfl, rfl, rfl⟩
  obtain ⟨articles, harticles, rfl, hfieldCount, hruleCount⟩ := hend
  refine ⟨t, {
    manifest := hmanifest
    roles := (checkFiles_eq_ok_iff.1 hcheck).roles
    fits := checkFiles_eq_ok_iff.1 hcheck
    intact := fun f hf => ?_
    messages := table_of_fileOfRole hfiles hverified hmessagesFile hmessages
    fields := table_of_fileOfRole hfiles hverified hfieldsFile hfields
    rules := table_of_fileOfRole hfiles hverified hrulesFile hrules
    articles := harticles
    fieldsChecked := ⟨_, hcheckFields⟩
    rulesChecked := ⟨_, hcheckRules⟩
    schemasChecked := fun m hm => ?_
    schemas := ?_
    fieldCount := ?_
    ruleCount := hruleCount }⟩
  · obtain ⟨bytes, -, hintact⟩ := exists_verified hverified (List.mem_mergeSort.2 hf)
    exact ⟨bytes, hintact⟩
  · exact (hchecked _ (List.mem_map.2 ⟨m, hm, rfl⟩)).elim fun _ h => h
  · rw [List.map_map]
    rfl
  · rw [hfieldCount, List.map_map]
    rfl

/-- A rule book is loaded if each step of loading succeeds. -/
theorem RuleBook.exists_load {verified : List (ManifestFile × List UInt8)} {t : Tables}
    {messagesPath fieldsPath rulesPath : String} {messagesBytes fieldsBytes rulesBytes : List UInt8}
    (hmanifest : readManifest tree directory = .ok manifest) (hfits : manifest.Fits tree directory)
    (hverified : (manifest.files.mergeSort fun a b => decide (a.path ≤ b.path)).mapM (verifyFile tree directory) =
      .ok verified)
    (hmessagesFile : fileOfRole directory verified "messages" = .ok (messagesPath, messagesBytes))
    (hfieldsFile : fileOfRole directory verified "fields" = .ok (fieldsPath, fieldsBytes))
    (hrulesFile : fileOfRole directory verified "rules" = .ok (rulesPath, rulesBytes))
    (hmessages : readMessages messagesPath messagesBytes = .ok t.messages)
    (hfields : readFields fieldsPath fieldsBytes = .ok t.fields) (hrules : readRules rulesPath rulesBytes = .ok t.rules)
    (hcheckFields : t.checkFields fieldsPath = .ok ()) (hcheckRules : t.checkRules rulesPath = .ok ())
    (hschemas : ∀ schema ∈ t.messages.map t.schema, (schema.check {}).1 = .ok ())
    (harticles : ∀ found, fileOfRole? directory verified "ucp_rules" = some found →
      ∃ articles, readArticles found.1 found.2 = .ok articles) : ∃ book summary cache,
      load tree directory {} = (.ok (book, summary), cache) ∧
        book.schemas = TextMap.ofList ((t.messages.map t.schema).map fun schema => (schema.messageType, schema)) := by
  obtain ⟨cache, hchecked⟩ := Compiling.exists_forEach Schema.steady_check .empty fun schema hschema =>
    ⟨(), hschemas schema hschema⟩
  unfold load
  rw [lift_bind_of_ok hmanifest, lift_bind_of_ok (checkFiles_eq_ok_iff.2 hfits)]
  simp only
  rw [lift_bind_of_ok hverified, lift_bind_of_ok hmessagesFile]
  simp only
  rw [lift_bind_of_ok hfieldsFile]
  simp only
  rw [lift_bind_of_ok hrulesFile]
  simp only
  rw [lift_bind_of_ok hmessages, lift_bind_of_ok hfields, lift_bind_of_ok hrules, lift_bind_of_ok hcheckFields,
    lift_bind_of_ok hcheckRules]
  cases hfile : fileOfRole? directory verified "ucp_rules" with
  | none => exact ⟨_, _, cache, Compiling.bind_eq_ok_iff.2 ⟨⟨⟩, cache, hchecked, rfl⟩, rfl⟩
  | some found =>
    obtain ⟨articles, harticles⟩ := harticles found hfile
    simp only [lift_bind_of_ok harticles]
    exact ⟨_, _, cache, Compiling.bind_eq_ok_iff.2 ⟨⟨⟩, cache, hchecked, rfl⟩, rfl⟩

end Directory

/-! ## A small rule book -/

namespace SmallBook

/-- The table of one field. -/
def fields : String := "Message Type,Sequence,Tag,Field Name,Format,Mandatory\n700,1,20,Number,16x,Y\n"

def messages : String := "Message Type,Name\n700,Issue\n"

def rules : String := "Message Type,Tag,Rule Kind,Max\n700,20,length,16\n"

def manifestText : String := "[manifest]
schema = \"lc-checker.standards-manifest\"
schema_version = 1
[pins]
swift_mt = \"SR2023\"
ucp = \"UCP600\"
[[files]]
path = \"fields.csv\"
sha256 = \"7c84c2aae3a09c6dcb95f607a6fd9a824980af955d9ab7722cebd7bf16cfc77f\"
kind = \"csv\"
role = \"fields\"
[[files]]
path = \"messages.csv\"
sha256 = \"5d31ace6d327884af67e86bb83b2f71aa4d85d449d0008920f7239bc75d6506a\"
kind = \"csv\"
role = \"messages\"
[[files]]
path = \"rules.csv\"
sha256 = \"ff969a6b7114b576b783276f73440d9f9dc2f55efe33693338ca1378a8a3b78b\"
kind = \"csv\"
role = \"rules\"
"

/-- What the text of the manifest says. -/
def manifest : Manifest where
  schema := manifestSchema
  schemaVersion := 1
  pins := ⟨"SR2023", "UCP600"⟩
  files := [
    ⟨"fields.csv", "7c84c2aae3a09c6dcb95f607a6fd9a824980af955d9ab7722cebd7bf16cfc77f", "csv", "fields", none⟩,
    ⟨"messages.csv", "5d31ace6d327884af67e86bb83b2f71aa4d85d449d0008920f7239bc75d6506a", "csv", "messages", none⟩,
    ⟨"rules.csv", "ff969a6b7114b576b783276f73440d9f9dc2f55efe33693338ca1378a8a3b78b", "csv", "rules", none⟩]

def tree : FileTree where
  files := [(["s", "manifest.toml"], Text.toBytes manifestText), (["s", "fields.csv"], Text.toBytes fields),
    (["s", "messages.csv"], Text.toBytes messages), (["s", "rules.csv"], Text.toBytes rules)]

set_option maxRecDepth 10000 in
theorem read?_manifestText : Manifest.read? manifestText = some manifest := by
  rw [Manifest.read?, Toml.read?, show manifestText.toList = _ from String.toList_ofList]
  with_unfolding_all rfl

/-- A directory with a manifest and three tables. -/
def treeOf (manifestText fields messages rules : String) : FileTree where
  files := [(["s", "manifest.toml"], Text.toBytes manifestText), (["s", "fields.csv"], Text.toBytes fields),
    (["s", "messages.csv"], Text.toBytes messages), (["s", "rules.csv"], Text.toBytes rules)]

theorem place_manifest : Path.place (Path.join "s" "manifest.toml") = ["s", "manifest.toml"] := by decide +kernel

theorem read_treeOf (manifestText fields messages rules : String) :
    (treeOf manifestText fields messages rules).read (Path.join "s" "manifest.toml") =
      .ok (Text.toBytes manifestText) := by
  refine FileTree.read_eq_ok_iff.2 ⟨by decide +kernel, ?_, by decide +kernel⟩
  rw [place_manifest]
  simp [treeOf, FileTree.file?]

/-- A manifest of the three tables fits their directory. -/
theorem fits_treeOf {manifest : Manifest} (hroles : manifest.files.map (·.role) = ["fields", "messages", "rules"])
    (hpaths : manifest.files.map (·.path) = ["fields.csv", "messages.csv", "rules.csv"])
    (hentries : ∀ f ∈ manifest.files, f.check = .ok f.path) (manifestText fields messages rules : String) :
    manifest.Fits (treeOf manifestText fields messages rules) "s" := by
  have hcomponents : ∀ path ∈ ["fields.csv", "messages.csv", "rules.csv"], Path.components path = [path] := by
    decide +kernel
  have hlisted : ∀ path ∈ ["fields.csv", "messages.csv", "rules.csv"],
      ∃ f ∈ manifest.files, Path.components f.path = [path] := by
    intro path hpath
    obtain ⟨f, hf, rfl⟩ : ∃ f ∈ manifest.files, f.path = path := List.mem_map.1 (hpaths ▸ hpath)
    exact ⟨f, hf, hcomponents _ hpath⟩
  refine ⟨by decide, by rw [hroles]; decide, fun role hrole => ?_, hentries, fun parts bytes hne hmem => ?_⟩
  · have hmem : role ∈ manifest.files.map (·.role) := by
      rw [hroles]
      revert role
      decide
    exact List.mem_map.1 hmem
  · rw [show Path.place "s" = ["s"] by decide +kernel] at hmem
    simp only [treeOf, List.mem_cons, Prod.mk.injEq, List.cons_append, List.nil_append, List.cons.injEq, true_and,
      List.not_mem_nil, or_false] at hmem
    rcases hmem with ⟨rfl, -⟩ | ⟨rfl, -⟩ | ⟨rfl, -⟩ | ⟨rfl, -⟩
    · exact .inl rfl
    · exact .inr (hlisted "fields.csv" (by decide))
    · exact .inr (hlisted "messages.csv" (by decide))
    · exact .inr (hlisted "rules.csv" (by decide))

/-- The manifest of three tables with these hashes. -/
def manifestOf (fieldsHash messagesHash rulesHash : String) : Manifest where
  schema := manifestSchema
  schemaVersion := 1
  pins := ⟨"SR2023", "UCP600"⟩
  files := [⟨"fields.csv", fieldsHash, "csv", "fields", none⟩, ⟨"messages.csv", messagesHash, "csv", "messages", none⟩,
    ⟨"rules.csv", rulesHash, "csv", "rules", none⟩]

/-- A directory of three tables can be loaded if its manifest has their hashes and the tables fit together. -/
theorem exists_load_treeOf {manifestText fields messages rules fieldsHash messagesHash rulesHash : String} {t : Tables}
    (htext : Manifest.read? manifestText = some (manifestOf fieldsHash messagesHash rulesHash))
    (hentries : ∀ f ∈ (manifestOf fieldsHash messagesHash rulesHash).files, f.check = .ok f.path)
    (hfieldsHash : Sha256.hexHash (Text.toBytes fields) = Text.asciiLower fieldsHash)
    (hmessagesHash : Sha256.hexHash (Text.toBytes messages) = Text.asciiLower messagesHash)
    (hrulesHash : Sha256.hexHash (Text.toBytes rules) = Text.asciiLower rulesHash)
    (hfields : readFields "s/fields.csv" (Text.toBytes fields) = .ok t.fields)
    (hmessages : readMessages "s/messages.csv" (Text.toBytes messages) = .ok t.messages)
    (hrules : readRules "s/rules.csv" (Text.toBytes rules) = .ok t.rules)
    (hcheckFields : t.checkFields "s/fields.csv" = .ok ()) (hcheckRules : t.checkRules "s/rules.csv" = .ok ())
    (hschemas : ∀ schema ∈ t.messages.map t.schema, (schema.check {}).1 = .ok ()) : ∃ book summary cache,
      RuleBook.load (treeOf manifestText fields messages rules) "s" {} = (.ok (book, summary), cache) ∧
        book.schemas = TextMap.ofList ((t.messages.map t.schema).map fun schema => (schema.messageType, schema)) := by
  have hplace : ∀ path ∈ ["fields.csv", "messages.csv", "rules.csv"], Path.place (Path.join "s" path) = ["s", path] ∧
      (Path.join "s" path).isEmpty = false ∧ Path.isDirectoryForm (Path.join "s" path) = false := by decide +kernel
  have hread : ∀ path ∈ ["fields.csv", "messages.csv", "rules.csv"], ∀ bytes,
      (treeOf manifestText fields messages rules).file? ["s", path] = some bytes →
        (treeOf manifestText fields messages rules).read (Path.join "s" path) = .ok bytes := by
    intro path hpath bytes hfile
    obtain ⟨hplace, hempty, hform⟩ := hplace path hpath
    exact FileTree.read_eq_ok_iff.2 ⟨by simpa using hempty, hplace ▸ hfile, hform⟩
  have hverified : ((manifestOf fieldsHash messagesHash rulesHash).files.mergeSort fun a b =>
      decide (a.path ≤ b.path)).mapM (verifyFile (treeOf manifestText fields messages rules) "s") =
        .ok ((manifestOf fieldsHash messagesHash rulesHash).files.zip
          [Text.toBytes fields, Text.toBytes messages, Text.toBytes rules]) := by
    rw [List.mergeSort_of_pairwise (by simp [manifestOf])]
    refine Except.mapM_eq_ok_iff.2 (.cons ?_ (.cons ?_ (.cons ?_ .nil)))
    · exact verifyFile_eq_ok_iff.2 ⟨rfl, hread "fields.csv" (by simp) _ rfl, hfieldsHash⟩
    · exact verifyFile_eq_ok_iff.2 ⟨rfl, hread "messages.csv" (by simp) _ rfl, hmessagesHash⟩
    · exact verifyFile_eq_ok_iff.2 ⟨rfl, hread "rules.csv" (by simp) _ rfl, hrulesHash⟩
  have hjoin : Path.join "s" "fields.csv" = "s/fields.csv" ∧ Path.join "s" "messages.csv" = "s/messages.csv" ∧
      Path.join "s" "rules.csv" = "s/rules.csv" := by decide +kernel
  exact RuleBook.exists_load (readManifest_of_read (read_treeOf ..) htext rfl rfl)
    (fits_treeOf rfl rfl hentries manifestText fields messages rules) hverified
    (congrArg (fun path => Except.ok (path, Text.toBytes messages)) hjoin.2.1)
    (congrArg (fun path => Except.ok (path, Text.toBytes fields)) hjoin.1)
    (congrArg (fun path => Except.ok (path, Text.toBytes rules)) hjoin.2.2) hmessages hfields hrules hcheckFields hcheckRules
    hschemas nofun

theorem read_manifest : tree.read (Path.join "s" "manifest.toml") = .ok (Text.toBytes manifestText) :=
  read_treeOf manifestText fields messages rules

theorem readManifest_eq : readManifest tree "s" = .ok manifest :=
  readManifest_of_read read_manifest read?_manifestText rfl rfl

theorem hexHash_messages : Sha256.hexHash (Text.toBytes messages) =
    Text.asciiLower "5d31ace6d327884af67e86bb83b2f71aa4d85d449d0008920f7239bc75d6506a" := by decide +kernel

theorem readMessages_eq : readMessages "s/messages.csv" (Text.toBytes messages) = .ok [⟨"700", "Issue", ""⟩] := by cbv

/-- The rows of the tables. -/
def tables : Tables where
  messages := [⟨"700", "Issue", ""⟩]
  fields := [⟨"700", ⟨"20", "Number", "16x", true, 1, none, 1, []⟩⟩]
  rules := [⟨"700", "20", .length 0 16⟩]

theorem schema_eq : tables.messages.map tables.schema =
    [⟨"700", "Issue", "", [⟨"20", "Number", "16x", true, 1, none, 1, [.length 0 16]⟩]⟩] := by cbv

/-- The small rule book can be loaded. -/
theorem exists_load : ∃ book summary cache, RuleBook.load tree "s" {} = (.ok (book, summary), cache) := by
  have hfields : readFields "s/fields.csv" (Text.toBytes fields) = .ok tables.fields := by decide +kernel
  have hrules : readRules "s/rules.csv" (Text.toBytes rules) = .ok tables.rules := by decide +kernel
  have hschemas : ∀ schema ∈ tables.messages.map tables.schema, (schema.check {}).1 = .ok () := by
    rw [schema_eq]
    decide +kernel
  obtain ⟨book, summary, cache, h, -⟩ := exists_load_treeOf read?_manifestText (by decide +kernel) (by decide +kernel)
    hexHash_messages (by decide +kernel) hfields readMessages_eq hrules (by decide +kernel) (by decide +kernel) hschemas
  exact ⟨book, summary, cache, h⟩

end SmallBook

end DocumentaryCredit

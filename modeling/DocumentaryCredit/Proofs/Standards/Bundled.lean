/-
The bundled rule book is one. Its manifest is read, each table has the hash that the manifest pins, the rows of the
tables are what their cells say, and the schemas pass their checks, so that the rule book is loaded (`exists_load`). All
its tags are of the form that text blocks can carry.
-/
import DocumentaryCredit.Main
import DocumentaryCredit.Proofs.Message.TextBlock
import DocumentaryCredit.Proofs.Standards.Loading
import DocumentaryCredit.Proofs.Standards.TableFiles

namespace DocumentaryCredit.Bundled

open Csv (given? isPlain)

/-! ## The tables -/

/-- The field that the cells of a row state. -/
def fieldOf? : List String → Option FieldRow
  | [messageType, sequence, tag, name, formatSpec, flag, allowed, occurrences] => do
    let messageType ← given? messageType
    let tag ← given? tag
    let sequence ← (← (given? sequence).mapM (Text.readNat? Text.maxNat32))
    let isMandatory ← (given? flag).bind readFlag?
    let name ← given? name
    let formatSpec ← given? formatSpec
    let maxOccurrences ← (given? occurrences).mapM (Text.readNat? Text.maxNat32)
    return ⟨normalizeMessageType messageType, {
      tag := Text.asciiUpper tag
      name, formatSpec, isMandatory, sequence
      allowedValues := (given? allowed).map readAlternatives
      maxOccurrences := maxOccurrences.getD 1
      rules := [] }⟩
  | _ => none

theorem read_of_fieldOf? {r : NumberedRow} {field : FieldRow} (hcolumns : r.table.columns = fields.headD [])
    (hplain : ∀ cell ∈ r.row, isPlain cell.toList = true) (h : fieldOf? r.row = some field) :
    FieldRow.read r = .ok field := by
  have hget (column : String) : r.get? column =
      (((fields.headD []).idxOf? column).bind (r.row[·]?)).bind given? := by
    rw [NumberedRow.get?, Csv.get?_of_isPlain r.table hplain, hcolumns]
  unfold fieldOf? at h
  split at h
  · next messageType sequence tag name formatSpec flag allowed occurrences hrow =>
    rw [hrow] at hget
    have hmessageType : r.get? "Message Type" = given? messageType := by rw [hget]; rfl
    have hsequence : r.get? "Sequence" = given? sequence := by rw [hget]; rfl
    have htag : r.get? "Tag" = given? tag := by rw [hget]; rfl
    have hname : r.get? "Field Name" = given? name := by rw [hget]; rfl
    have hformat : r.get? "Format" = given? formatSpec := by rw [hget]; rfl
    have hflag : r.get? "Mandatory" = given? flag := by rw [hget]; rfl
    have hallowed : r.get? "Allowed Values" = given? allowed := by rw [hget]; rfl
    have hoccurrences : r.get? "Max Occurrences" = given? occurrences := by rw [hget]; rfl
    simp only [Option.bind_eq_bind, Option.bind_eq_some_iff] at h
    obtain ⟨_, h₁, _, h₂, _, hnumber, _, rfl, _, ⟨_, h₃, hyes⟩, _, h₄, _, h₅, _, hcount, heq⟩ := h
    obtain rfl := Option.some.inj heq
    rw [FieldRow.read, require_eq_ok (hmessageType.trans h₁), require_eq_ok (htag.trans h₂),
      number?_eq_ok (by rw [hsequence, hnumber]), require_eq_ok (hflag.trans h₃), require_eq_ok (hname.trans h₄),
      require_eq_ok (hformat.trans h₅), number?_eq_ok (by rw [hoccurrences, hcount])]
    simp only [hallowed, hyes, bind, Except.bind, pure, Except.pure]
  · cases h

/-- The rule that the cells of a row state. -/
def ruleOf? : List String → Option RuleRow
  | [messageType, tag, kind, min, max, pattern, component, relation, other] =>
    let number (cell : String) : Nat := (Text.readNat? Text.maxNat64 cell).getD 0
    let rule? : Option FieldRule := match kind with
      | "length" => some (.length (number min) (number max))
      | "pattern" => (Pattern.ofText? pattern).map .pattern
      | "date" => some (.date (number component))
      | "cross_field" => (Relation.read relation).toOption.map fun relation => .crossField ⟨relation, other⟩
      | _ => none
    rule?.map (RuleRow.mk messageType tag)
  | _ => none

/-- The rows of the tables. -/
def tables : Tables where
  messages := [⟨"700", "Issue of a Documentary Credit", "SR2023"⟩,
    ⟨"707", "Amendment to a Documentary Credit", "SR2023"⟩, ⟨"799", "Free Format Message", "SR2023"⟩]
  fields := fields.tail.filterMap fieldOf?
  rules := rules.tail.filterMap ruleOf?

/-! ## The manifest -/

theorem setting_eq (key value : List Char) : setting (String.ofList key) (String.ofList value) =
    String.ofList (key ++ [' ', '=', ' ', '"'] ++ value.flatMap Json.escapeChar ++ ['"']) := by
  rw [← String.toList_inj]
  simp [setting, Json.quote]

theorem toList_lines {lines : List String} {characters : List (List Char)} (h : Spelled lines characters) :
    ("\n".intercalate lines ++ "\n").toList = ['\n'].intercalate characters ++ ['\n'] := by
  rw [String.toList_append, String.toList_intercalate, h.map_eq]
  rfl

/-- What the manifest says. -/
def listed : Manifest where
  schema := manifestSchema
  schemaVersion := 1
  pins := ⟨"SR2023", "UCP600"⟩
  files := [
    ⟨"swift/messages.csv", "f8ea0eaa7e8035e1b7e69863168552382508a202bc49434725710b9b797bcbc8", "csv", "messages", none⟩,
    ⟨"swift/fields.csv", "5bd0e05e19e56437ca490438bbd88dde6feefc7d2f8cec40fbb36d1c270ad010", "csv", "fields", none⟩,
    ⟨"swift/rules.csv", "789aa62dc977239801f9d9bba913d1c37f142d25c56290fd1ebe6ea60ae57c88", "csv", "rules", none⟩,
    ⟨"ucp600/rules.csv", "29256f7b305d68ccbd4aeb6e07e8c575ffe6b389c77646698d7b6f4c82d4342c", "csv", "ucp_rules", none⟩]

theorem read?_of_toList {text : String} {characters : List Char} {found : Manifest} (h : text.toList = characters)
    (hread : Manifest.read? (String.ofList characters) = some found) : Manifest.read? text = some found := by
  rwa [← h, String.ofList_toList] at hread

set_option maxRecDepth 10000 in
theorem read?_manifest : Manifest.read? manifest = some listed := by
  apply read?_of_toList
  · unfold manifest
    simp only [entry, List.cons_append, List.nil_append]
    apply toList_lines
    repeat' first | exact setting_eq _ _ | constructor
  · rw [Manifest.read?, Toml.read?, String.toList_ofList]
    with_unfolding_all rfl

/-- The listed files in the order of their paths. -/
def sorted : List ManifestFile := [listed.files[1], listed.files[0], listed.files[2], listed.files[3]]

/-- The listed files in the order of their paths, with their bytes. -/
def verified : List (ManifestFile × List UInt8) :=
  sorted.zip ([fields, messages, rules, articles].map fun table => Text.toBytes (tableText table))

/-- The tree with nothing but the rule book. -/
def tree : FileTree := addTo {} bundledDirectory

/-- The schema of a message type, with the fields as they are listed. -/
def schemaOf (m : MessageRow) : Schema where
  messageType := m.messageType
  name := m.name
  version := m.version
  fields := (tables.fieldsOf m.messageType).map fun f => { f with rules := tables.rulesOf m.messageType f.tag }

/-! ## Evaluation -/

/-- What is found by computing with the tables, the manifest and the paths of the files. -/
structure Evaluation : Prop where
  /-- The tables have the hashes that the manifest pins. -/
  filed : List.Forall₂ (fun f table => Filed table f.sha256) listed.files [messages, fields, rules, articles]
  messageRows : messages.tail.zipIdx.mapM (fun (row, index) => MessageRow.read ⟨⟨messages.headD [], messages.tail⟩,
    Path.join bundledDirectory "swift/messages.csv", index + 1, row⟩) = .ok tables.messages
  messagesInOrder : tables.messages.Pairwise fun a b => decide (a.messageType ≤ b.messageType) = true
  messagesOnce : listedTwice? tables.messages = none
  fieldRows : ∀ row ∈ fields.tail, (fieldOf? row).isSome
  ruleRows : rules.tail.zipIdx.mapM (fun (row, index) => RuleRow.read ⟨⟨rules.headD [], rules.tail⟩,
    Path.join bundledDirectory "swift/rules.csv", index + 1, row⟩) = .ok tables.rules
  articleRows : ((articles.tail.zipIdx.mapM fun (row, index) => Except.ok ⟨⟨articles.headD [], articles.tail⟩,
    Path.join bundledDirectory "ucp600/rules.csv", index + 1, row⟩) >>= readArticleRows []).isOk = true
  places : ∀ entry ∈ files,
    Path.place (Path.join bundledDirectory entry.1) = Path.place bundledDirectory ++ Path.components entry.1
  distinctPlaces : (files.map fun entry => Path.place (Path.join bundledDirectory entry.1)).Nodup
  paths : ∀ entry ∈ files, Path.join bundledDirectory entry.1 ≠ "" ∧
    Path.isDirectoryForm (Path.join bundledDirectory entry.1) = false
  listedPaths : ∀ entry ∈ files, Path.components entry.1 = ["manifest.toml"] ∨
    ∃ f ∈ listed.files, Path.components f.path = Path.components entry.1
  entries : ∀ f ∈ listed.files, f.check = .ok f.path
  roles : (sorted.map (·.role)).Nodup
  required : ∀ role ∈ ManifestFile.requiredRoles, ∃ f ∈ listed.files, f.role = role
  distinctPaths : (sorted.map (·.path)).Nodup
  inOrder : sorted.Pairwise fun a b => decide (a.path ≤ b.path) = true
  knownMessages : tables.checkFields (Path.join bundledDirectory "swift/fields.csv") = .ok ()
  knownFields : tables.checkRules (Path.join bundledDirectory "swift/rules.csv") = .ok ()
  distinctMessages : (tables.messages.map (·.messageType)).Nodup
  fieldsInOrder : ∀ m ∈ tables.messages,
    (schemaOf m).fields.Pairwise fun a b => decide (a.sequence ≤ b.sequence) = true
  schemas : ∀ m ∈ tables.messages, ((schemaOf m).check {}).1 = .ok ()
  tags : ∀ row ∈ tables.fields, TextBlock.isTag row.definition.tag.toList = true

namespace Evaluation

variable (e : Evaluation)

include e

/-! ## The rows -/

theorem readMessages_eq : readMessages (Path.join bundledDirectory "swift/messages.csv")
    (Text.toBytes (tableText messages)) = .ok tables.messages := by
  obtain _ | ⟨hfiled, -⟩ := e.filed
  have hrows : readTable (Path.join bundledDirectory "swift/messages.csv") (Text.toBytes (tableText messages))
      MessageRow.read = .ok tables.messages := (hfiled.readTable_eq _ _).trans e.messageRows
  have hsorted : tables.messages.mergeSort (fun a b => decide (a.messageType ≤ b.messageType)) = tables.messages :=
    List.mergeSort_of_pairwise e.messagesInOrder
  simp only [readMessages, hrows, bind, Except.bind, hsorted, e.messagesOnce]

theorem readFields_eq (path : String) : readFields path (Text.toBytes (tableText fields)) = .ok tables.fields := by
  obtain _ | ⟨-, _ | ⟨hfiled, -⟩⟩ := e.filed
  exact hfiled.readTable_eq_filterMap path read_of_fieldOf? e.fieldRows

theorem readRules_eq : readRules (Path.join bundledDirectory "swift/rules.csv") (Text.toBytes (tableText rules)) =
    .ok tables.rules := by
  obtain _ | ⟨-, _ | ⟨-, _ | ⟨hfiled, -⟩⟩⟩ := e.filed
  exact (hfiled.readTable_eq _ _).trans e.ruleRows

theorem exists_readArticles : ∃ rows, readArticles (Path.join bundledDirectory "ucp600/rules.csv")
    (Text.toBytes (tableText articles)) = .ok rows := by
  obtain _ | ⟨-, _ | ⟨-, _ | ⟨-, _ | ⟨hfiled, -⟩⟩⟩⟩ := e.filed
  have hread := e.articleRows
  rw [← hfiled.readTable_eq (Path.join bundledDirectory "ucp600/rules.csv") fun r => .ok r] at hread
  exact Except.exists_of_isOk hread

/-! ## The directory -/

theorem files_tree : tree.files =
    files.map fun entry => (Path.place (Path.join bundledDirectory entry.1), Text.toBytes entry.2) := by
  rw [tree, addTo, FileTree.files_foldl_put e.distinctPlaces (by simp)]
  rfl

theorem read_tree {path text : String} (h : (path, text) ∈ files) :
    tree.read (Path.join bundledDirectory path) = .ok (Text.toBytes text) := by
  obtain ⟨hne, hform⟩ := e.paths _ h
  refine FileTree.read_eq_ok_iff.2 ⟨hne, FileTree.file?_of_mem ?_ ?_, hform⟩
  · rw [e.files_tree, List.map_map]
    exact e.distinctPlaces
  · rw [e.files_tree]
    exact List.mem_map.2 ⟨_, h, rfl⟩

theorem readManifest_tree : readManifest tree bundledDirectory = .ok listed := by
  have hread : tree.read (Path.join bundledDirectory "manifest.toml") = .ok (Text.toBytes manifest) :=
    e.read_tree (.head _)
  exact readManifest_of_read hread read?_manifest rfl rfl

theorem fits : listed.Fits tree bundledDirectory where
  directory_ne := by decide
  roles := ((List.Perm.swap _ _ _ : listed.files.Perm sorted).map _).nodup_iff.2 e.roles
  required := e.required
  entries := e.entries
  listed := by
    intro parts bytes _ hmem
    rw [e.files_tree] at hmem
    obtain ⟨entry, hentry, heq⟩ := List.mem_map.1 hmem
    obtain rfl : Path.components entry.1 = parts := by
      have hplace := (Prod.mk.inj heq).1
      rw [e.places entry hentry] at hplace
      exact List.append_cancel_left hplace
    exact e.listedPaths entry hentry

theorem verifyFile_eq {f : ManifestFile} {table : List (List String)} (hfiled : Filed table f.sha256)
    (h : (f.path, tableText table) ∈ files) :
    verifyFile tree bundledDirectory f = .ok (f, Text.toBytes (tableText table)) := by
  refine verifyFile_eq_ok_iff.2 ⟨rfl, e.read_tree h, ?_⟩
  rw [← hfiled.hash, Sha256.asciiLower_hexHash]

theorem mergeSort_files : (listed.files.mergeSort fun a b => decide (a.path ≤ b.path)) = sorted := by
  have hperm : (listed.files.mergeSort fun a b => decide (a.path ≤ b.path)).Perm sorted :=
    (List.mergeSort_perm _ _).trans (.swap _ _ _)
  refine hperm.eq_of_pairwise (fun a b ha hb hab hba => ?_) (List.pairwise_mergeSort ?_ ?_ _) e.inOrder
  · exact List.inj_on_of_nodup_map e.distinctPaths (hperm.mem_iff.1 ha) hb
      (le_antisymm (of_decide_eq_true hab) (of_decide_eq_true hba))
  · simpa using fun a b c => le_trans
  · simpa using fun a b => le_total _ _

theorem mapM_verifyFile : (listed.files.mergeSort fun a b => decide (a.path ≤ b.path)).mapM
    (verifyFile tree bundledDirectory) = .ok verified := by
  obtain _ | ⟨hmessages, _ | ⟨hfields, _ | ⟨hrules, _ | ⟨harticles, -⟩⟩⟩⟩ := e.filed
  rw [e.mergeSort_files, Except.mapM_eq_ok_iff]
  refine .cons (e.verifyFile_eq hfields ?_) (.cons (e.verifyFile_eq hmessages ?_) (.cons (e.verifyFile_eq hrules ?_)
    (.cons (e.verifyFile_eq harticles ?_) .nil)))
  all_goals simp [files, listed]

theorem fileOfRole?_eq {role : String} {f : ManifestFile} {bytes : List UInt8} (h : (f, bytes) ∈ verified)
    (hrole : f.role = role) :
    fileOfRole? bundledDirectory verified role = some (Path.join bundledDirectory f.path, bytes) := by
  have hnodup : (verified.map (·.1.role)).Nodup := e.roles
  have hfind : verified.find? (·.1.role == role) = some (f, bytes) :=
    (find?_eq_some_iff_of_nodup hnodup fun _ _ => beq_iff_eq).2 ⟨h, hrole⟩
  rw [fileOfRole?, hfind]
  rfl

theorem fileOfRole_eq {role : String} {f : ManifestFile} {bytes : List UInt8} (h : (f, bytes) ∈ verified)
    (hrole : f.role = role) :
    fileOfRole bundledDirectory verified role = .ok (Path.join bundledDirectory f.path, bytes) := by
  rw [fileOfRole, e.fileOfRole?_eq h hrole]

/-! ## The rule book -/

/-- The fields of a message type are listed in the order of their sequence numbers. -/
theorem schema_eq {m : MessageRow} (h : m ∈ tables.messages) : tables.schema m = schemaOf m := by
  have hsorted : ((schemaOf m).fields.mergeSort fun a b => decide (a.sequence ≤ b.sequence)) = (schemaOf m).fields :=
    List.mergeSort_of_pairwise (e.fieldsInOrder m h)
  exact congrArg (Schema.mk m.messageType m.name m.version) hsorted

theorem check_schema : ∀ schema ∈ tables.messages.map tables.schema, (schema.check {}).1 = .ok () := by
  rintro _ hschema
  obtain ⟨m, hm, rfl⟩ := List.mem_map.1 hschema
  rw [e.schema_eq hm]
  exact e.schemas m hm

/-- The rule book is loaded, and its schemas are those of its tables. -/
theorem exists_load : ∃ book summary formats,
    RuleBook.load tree bundledDirectory {} = (.ok (book, summary), formats) ∧
      ∀ code schema, book.schemas.get? code = some schema ↔
        ∃ m ∈ tables.messages, m.messageType = code ∧ tables.schema m = schema := by
  have harticles : ∀ found, fileOfRole? bundledDirectory verified "ucp_rules" = some found →
      ∃ rows, readArticles found.1 found.2 = .ok rows := by
    have hfile : fileOfRole? bundledDirectory verified "ucp_rules" =
        some (Path.join bundledDirectory "ucp600/rules.csv", Text.toBytes (tableText articles)) :=
      e.fileOfRole?_eq (f := listed.files[3]) (by simp [verified, sorted]) rfl
    intro found hfound
    obtain rfl := Option.some.inj (hfile.symm.trans hfound)
    exact e.exists_readArticles
  obtain ⟨book, summary, formats, hload, hschemas⟩ := RuleBook.exists_load e.readManifest_tree e.fits e.mapM_verifyFile
    (e.fileOfRole_eq (f := listed.files[0]) (by simp [verified, sorted]) rfl)
    (e.fileOfRole_eq (f := listed.files[1]) (by simp [verified, sorted]) rfl)
    (e.fileOfRole_eq (f := listed.files[2]) (by simp [verified, sorted]) rfl) e.readMessages_eq (e.readFields_eq _)
    e.readRules_eq e.knownMessages e.knownFields e.check_schema harticles
  refine ⟨book, summary, formats, hload, fun code schema => ?_⟩
  have hnodup :
      (((tables.messages.map tables.schema).map fun schema => (schema.messageType, schema)).map (·.1)).Nodup := by
    simpa [Function.comp_def, Tables.schema] using e.distinctMessages
  rw [hschemas, TextMap.get?_eq_some_iff, TextMap.mem_ofList_iff hnodup]
  simp only [List.map_map, List.mem_map, Function.comp_apply, Prod.mk.injEq]
  refine exists_congr fun m => and_congr_right fun _ => and_congr_left ?_
  rintro rfl
  rfl

/-- All fields have tags that text blocks can carry. -/
theorem isTag_of_mem {m : MessageRow} {f : FieldDefinition} (hf : f ∈ (tables.schema m).fields) :
    TextBlock.isTag f.tag.toList = true := by
  simp only [Tables.schema, List.mem_mergeSort, List.mem_map, Tables.fieldsOf, List.mem_filter] at hf
  obtain ⟨_, ⟨row, ⟨hrow, -⟩, rfl⟩, rfl⟩ := hf
  exact e.tags row hrow


end Evaluation

-- Evaluation follows the rows of a table and the characters of its cells.
set_option maxRecDepth 100000 in
theorem evaluation : Evaluation := by
  constructor
  case filed =>
    refine .cons ?_ (.cons ?_ (.cons ?_ (.cons ?_ .nil)))
    all_goals
      apply Filed.of_spelled
      · simp only [messages, fields, rules, articles]
        repeat' constructor
      · decide +kernel
      · rw [Sha256.hexHash, Sha256.hash_eq]
        decide +kernel
  all_goals decide +kernel

end DocumentaryCredit.Bundled

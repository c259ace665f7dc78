/-
Rule books do not depend on the arrangement of their tables. Main statement: a directory whose tables stand in another
arrangement (`FileTree.Rearranged`) can be loaded exactly if the directory can, and the rule book has the same schemas,
with their fields and rules in the same order, and the same articles, one for each category as before.

Only the articles are kept in the order of their rows, which is that of the file (`TwoArticleBook`).
-/
import DocumentaryCredit.Proofs.Csv
import DocumentaryCredit.Proofs.Standards.Assembly
import DocumentaryCredit.Proofs.Standards.RearrangedTables
import DocumentaryCredit.Proofs.Standards.TableFiles

namespace DocumentaryCredit

/-! ## Tables put together -/

/-- Tables with the same rows, perhaps in another order, but for the message types and the rules of each field. -/
structure Tables.SameRows (t t' : Tables) : Prop where
  messages : t'.messages = t.messages
  fields : t'.fields.Perm t.fields
  rules : t'.rules.Perm t.rules
  rulesOf : ∀ messageType tag, t'.rulesOf messageType tag = t.rulesOf messageType tag

namespace Tables.SameRows

variable {t t' : Tables} (h : t.SameRows t')

include h

theorem fieldsOf (messageType : String) : (t'.fieldsOf messageType).Perm (t.fieldsOf messageType) :=
  (h.fields.filter _).map _

theorem hasField_eq (messageType tag : String) : t'.hasField messageType tag = t.hasField messageType tag := by
  unfold hasField
  rw [h.messages, (h.fieldsOf messageType).any_eq]

theorem undefinedTag?_eq (r : RuleRow) : t'.undefinedTag? r = t.undefinedTag? r := by
  unfold undefinedTag?
  simp only [h.hasField_eq]

theorem agree_checkFields (path path' : String) :
    Except.Agree (fun _ _ => True) (t.checkFields path) (t'.checkFields path') := by
  refine .of_iff ?_
  rw [checkFields_eq_ok_iff, checkFields_eq_ok_iff, h.messages]
  exact forall_congr' fun row => imp_congr_left h.fields.mem_iff.symm

theorem agree_checkRules (path path' : String) :
    Except.Agree (fun _ _ => True) (t.checkRules path) (t'.checkRules path') := by
  refine .of_iff ?_
  rw [checkRules_eq_ok_iff, checkRules_eq_ok_iff]
  simp only [h.undefinedTag?_eq, h.rules.mem_iff]

/-- A schema in which the sequence numbers are distinct is the same. -/
theorem schema_eq {m : MessageRow} (hnodup : ((t.fieldsOf m.messageType).map (·.sequence)).Nodup) :
    t'.schema m = t.schema m := by
  unfold schema
  congr 1
  simp only [h.rulesOf]
  refine mergeSort_eq_of_perm (fun _ _ => decide_eq_true_iff) ((h.fieldsOf _).map _) ?_
  rw [List.map_map]
  exact hnodup

omit h in
theorem nodup_of_check {m : MessageRow} (hcheck : ((t.schema m).check {}).1 = .ok ()) :
    ((t.fieldsOf m.messageType).map (·.sequence)).Nodup := by
  obtain ⟨-, hne, -⟩ := Schema.of_check hcheck
  have hnodup := nodup_of_isChain_mergeSort (fun _ _ => decide_eq_true_iff) hne
  rw [List.map_map] at hnodup
  exact hnodup

/-- Schemas that pass their check are the same. -/
theorem agree_check (m : MessageRow) :
    Compiling.Agree (fun _ _ => t'.schema m = t.schema m) (t.schema m).check (t'.schema m).check := by
  refine .of_steady (Schema.steady_check _) (Schema.steady_check _) ?_
  refine .of_forall (fun _ hcheck => ?_) fun _ hcheck => ?_
  · have heq := h.schema_eq (nodup_of_check hcheck)
    exact ⟨(), by rw [heq]; exact hcheck, heq⟩
  · have hnodup := ((h.fieldsOf m.messageType).map (·.sequence)).nodup_iff.1 (nodup_of_check hcheck)
    exact ⟨(), by rw [← h.schema_eq hnodup]; exact hcheck⟩

theorem agree_checks : Compiling.Agree (fun _ _ => t'.messages.map t'.schema = t.messages.map t.schema)
    (Compiling.forEach Schema.check (t.messages.map t.schema))
    (Compiling.forEach Schema.check (t'.messages.map t'.schema)) := by
  have hsteps : List.Forall₂
      (fun schema schema' => Compiling.Agree (fun _ _ => schema = schema') schema.check schema'.check)
      (t.messages.map t.schema) (t.messages.map t'.schema) := by
    rw [List.forall₂_map_left_iff, List.forall₂_map_right_iff]
    exact List.forall₂_same.2 fun m _ => (h.agree_check m).imp fun _ _ => Eq.symm
  rw [h.messages]
  refine (Compiling.Agree.forEach hsteps).imp fun _ _ hsame => ?_
  rw [List.forall₂_eq_eq_eq] at hsame
  exact hsame.symm

end Tables.SameRows

/-! ## Directories -/

/-- A listed file and what stands in its place in another tree: the table may stand in another arrangement there. Its
hash is well-formed, and the right one, exactly if the one before was. -/
structure ManifestFile.Refiled (tree tree' : FileTree) (directory : String) (f f' : ManifestFile) : Prop where
  entry : f' = { f with sha256 := f'.sha256 }
  wellFormed : isHash f'.sha256 = isHash f.sha256
  content : Except.Agree (fun bytes bytes' => TableMoved f.role bytes bytes' ∧
      (Sha256.hexHash bytes' = Text.asciiLower f'.sha256 ↔ Sha256.hexHash bytes = Text.asciiLower f.sha256))
    (tree.read (Path.join directory f.path)) (tree'.read (Path.join directory f.path))

/-- A tree with the same paths, in which the tables of a directory may stand in another arrangement. The manifest is the
same but for the hashes. -/
structure FileTree.Rearranged (tree tree' : FileTree) (directory : String) : Prop where
  paths : tree'.files.map (·.1) = tree.files.map (·.1)
  manifest : Except.Agree (fun manifest manifest' => manifest'.pins = manifest.pins ∧
      List.Forall₂ (ManifestFile.Refiled tree tree' directory) manifest.files manifest'.files)
    (readManifest tree directory) (readManifest tree' directory)

/-- Verified files of one path and one role, whose bytes hold the same table. -/
def SameFile (v v' : ManifestFile × List UInt8) : Prop :=
  v'.1.path = v.1.path ∧ v'.1.role = v.1.role ∧ TableMoved v.1.role v.2 v'.2

section

variable {tree tree' : FileTree} {directory : String}

namespace ManifestFile.Refiled

variable {f f' : ManifestFile} (h : f.Refiled tree tree' directory f')

include h

theorem path_eq : f'.path = f.path := by rw [h.entry]

theorem role_eq : f'.role = f.role := by rw [h.entry]

/-- The check of an entry sees of its hash only whether it is well-formed. -/
theorem agree_check : Except.Agree Eq f.check f'.check := by
  have hrelative : f'.relativePath = f.relativePath := by
    rw [h.entry]
    rfl
  have hrole : f'.hasKnownRole = f.hasKnownRole := by
    rw [h.entry]
    rfl
  have hkind : f'.kind = f.kind := by rw [h.entry]
  unfold check
  rw [hrelative, hrole, hkind, h.wellFormed]
  split
  · exact .error
  split
  · exact .error
  split
  · exact .error
  · exact .refl (fun _ => rfl) _

theorem agree_verifyFile :
    Except.Agree SameFile (verifyFile tree directory f) (verifyFile tree' directory f') := by
  refine .of_forall (fun v hv => ?_) fun v' hv' => ?_
  · obtain ⟨g, bytes⟩ := v
    obtain ⟨rfl, hread, hhash⟩ := verifyFile_eq_ok_iff.1 hv
    obtain ⟨bytes', hread', hmoved, hhash'⟩ := h.content.exists_of_ok hread
    refine ⟨(f', bytes'), verifyFile_eq_ok_iff.2 ⟨rfl, ?_, hhash'.2 hhash⟩, h.path_eq, h.role_eq, hmoved⟩
    rw [h.path_eq]
    exact hread'
  · obtain ⟨g', bytes'⟩ := v'
    obtain ⟨rfl, hread', hhash'⟩ := verifyFile_eq_ok_iff.1 hv'
    rw [h.path_eq] at hread'
    obtain ⟨bytes, hread⟩ := h.content.exists_iff.2 ⟨bytes', hread'⟩
    have hhash := (h.content.rel_of_ok hread hread').2.1 hhash'
    exact ⟨(f, bytes), verifyFile_eq_ok_iff.2 ⟨rfl, hread, hhash⟩⟩

end ManifestFile.Refiled

theorem agree_checkEntries {roles : List String} {files files' : List ManifestFile}
    (h : List.Forall₂ (ManifestFile.Refiled tree tree' directory) files files') :
    Except.Agree Eq (checkEntries roles files) (checkEntries roles files') := by
  induction h generalizing roles with
  | nil => exact .ok rfl
  | @cons f f' files files' h _ ih =>
    unfold checkEntries
    rw [h.role_eq]
    split
    · exact .error
    have hcheck := h.agree_check
    generalize f.check = checked, f'.check = checked' at hcheck
    cases hcheck with
    | error => exact .error
    | ok heq =>
      subst heq
      exact ih.map fun _ _ hpaths => congrArg _ hpaths

theorem FileTree.filesBelow_congr (hpaths : tree'.files.map (·.1) = tree.files.map (·.1)) :
    tree'.filesBelow directory = tree.filesBelow directory := by
  let parts := Path.place directory
  have hbelow := congrArg (List.filterMap fun path : List String =>
    if parts.isPrefixOf path && parts != path then some (path.drop parts.length) else none) hpaths
  rw [List.filterMap_map, List.filterMap_map] at hbelow
  unfold filesBelow
  split
  · rfl
  · exact congrArg (fun below => Except.ok (below.mergeSort pathLe)) hbelow

/-- Whether the files below a directory are those that are listed. -/
theorem agree_checkFiles (hpaths : tree'.files.map (·.1) = tree.files.map (·.1)) {manifest manifest' : Manifest}
    (h : List.Forall₂ (ManifestFile.Refiled tree tree' directory) manifest.files manifest'.files) :
    Except.Agree Eq (checkFiles tree directory manifest) (checkFiles tree' directory manifest') := by
  have hroles : manifest'.files.map (·.role) = manifest.files.map (·.role) := by
    rw [← List.forall₂_eq_eq_eq, List.forall₂_map_left_iff, List.forall₂_map_right_iff]
    exact (h.imp fun f f' hf => hf.role_eq).flip
  have hany : ∀ role : String, manifest'.files.any (·.role == role) = manifest.files.any (·.role == role) := by
    intro role
    have hlisted := congrArg (List.any · (· == role)) hroles
    rw [List.any_map, List.any_map] at hlisted
    exact hlisted
  unfold checkFiles
  refine (agree_checkEntries h).bind_eq fun paths => ?_
  simp only [hany, FileTree.filesBelow_congr hpaths]
  split
  · exact .error
  · exact .refl (fun _ => rfl) _

/-- Related lists are related once they are sorted, if their order sees only what related elements share. -/
theorem forall₂_mergeSort {α β : Type} {R : α → β → Prop} {le : α → α → Bool} {le' : β → β → Bool} {l : List α}
    {l' : List β} (h : List.Forall₂ R l l') (hle : ∀ a a' b b', R a a' → R b b' → le a b = le' a' b') :
    List.Forall₂ R (l.mergeSort le) (l'.mergeSort le') := by
  have hpairs : ∀ p ∈ l.zip l', R p.1 p.2 := fun p hp => List.forall₂_zip h hp
  have hfst : (l.zip l').map Prod.fst = l := List.map_fst_zip h.length_eq.le
  have hsnd : (l.zip l').map Prod.snd = l' := List.map_snd_zip h.length_eq.ge
  -- Both lists are sorted as the pairs of them are.
  have hsorted : ((l.zip l').mergeSort fun p q => le p.1 q.1).map Prod.fst = ((l.zip l').map Prod.fst).mergeSort le :=
    List.map_mergeSort fun _ _ _ _ => rfl
  have hsorted' : ((l.zip l').mergeSort fun p q => le p.1 q.1).map Prod.snd = ((l.zip l').map Prod.snd).mergeSort le' :=
    List.map_mergeSort fun p hp q hq => hle _ _ _ _ (hpairs p hp) (hpairs q hq)
  rw [hfst] at hsorted
  rw [hsnd] at hsorted'
  rw [← hsorted, ← hsorted', List.forall₂_map_left_iff, List.forall₂_map_right_iff]
  exact List.forall₂_same.2 fun p hp => hpairs p (List.mem_mergeSort.1 hp)

theorem rel_fileOfRole? (directory : String) {verified verified' : List (ManifestFile × List UInt8)}
    (h : List.Forall₂ SameFile verified verified') (role : String) :
    Option.Rel (fun found found' => found'.1 = found.1 ∧ TableMoved role found.2 found'.2)
      (fileOfRole? directory verified role) (fileOfRole? directory verified' role) := by
  unfold fileOfRole?
  induction h with
  | nil => exact .none
  | @cons v v' rest rest' hv _ ih =>
    obtain ⟨hpath, hrole, hmoved⟩ := hv
    rw [List.find?_cons, List.find?_cons, hrole]
    split
    · next heq =>
      rw [beq_iff_eq.1 heq] at hmoved
      exact .some ⟨congrArg (Path.join directory) hpath, hmoved⟩
    · exact ih

theorem agree_fileOfRole {verified verified' : List (ManifestFile × List UInt8)}
    (h : List.Forall₂ SameFile verified verified') (role : String) :
    Except.Agree (fun found found' => found'.1 = found.1 ∧ TableMoved role found.2 found'.2)
      (fileOfRole directory verified role) (fileOfRole directory verified' role) := by
  have hrel := rel_fileOfRole? directory h role
  unfold fileOfRole
  generalize fileOfRole? directory verified role = found, fileOfRole? directory verified' role = found' at hrel
  cases hrel with
  | none => exact .error
  | some hfound => exact .ok hfound

/-! ## Rule books -/

/-- Two rule books say the same: their schemas are equal, with the fields and the rules of each in one order, and they
judge each category by the same article. -/
structure RuleBook.SaysSame (book book' : RuleBook) : Prop where
  schemas : book'.schemas = book.schemas
  articles : book'.articles.Perm book.articles
  ruleTable : book'.ruleTable = book.ruleTable

/-- Of articles with distinct categories the order does not matter. -/
theorem RuleTable.ofRules_eq_of_perm {rules rules' : List ClassificationRule} (hperm : rules'.Perm rules)
    (hnodup : (rules.map (·.category)).Nodup) : ofRules rules' = ofRules rules := by
  have hreverse : ∀ {l : List ClassificationRule}, l.Perm rules → (l.reverse.map (·.category)).Nodup := fun hl =>
    ((((List.reverse_perm _).trans hl).map _).nodup_iff).2 hnodup
  unfold ofRules
  congr 1
  funext category
  ext rule
  rw [find?_eq_some_iff_of_nodup (hreverse hperm) fun _ _ => decide_eq_true_iff,
    find?_eq_some_iff_of_nodup (hreverse (.refl _)) fun _ _ => decide_eq_true_iff, List.mem_reverse, List.mem_reverse,
    hperm.mem_iff]

theorem RuleBook.SaysSame.of_perm {manifest manifest' : Manifest} {files files' : List ManifestFile}
    {schemas : TextMap Schema} {articles articles' : List ClassificationRule} (hperm : articles'.Perm articles)
    (hnodup : (articles.map (·.category)).Nodup) :
    SaysSame ⟨manifest, files, schemas, articles⟩ ⟨manifest', files', schemas, articles'⟩ :=
  ⟨rfl, hperm, RuleTable.ofRules_eq_of_perm hperm hnodup⟩

theorem RuleBook.agree_lift {α α' : Type} {R : α → α' → Prop} {x : Except StandardsError α}
    {y : Except StandardsError α'} (h : Except.Agree R x y) : Compiling.Agree R (lift x) (lift y) :=
  fun _ _ hcache hcache' => ⟨h, hcache, hcache'⟩

/-- Loading from the two directories goes step by step in the same way. -/
theorem RuleBook.agree_load (h : tree.Rearranged tree' directory) :
    Compiling.Agree (fun loaded loaded' => loaded.1.SaysSame loaded'.1 ∧ loaded'.2 = loaded.2)
      (load tree directory) (load tree' directory) := by
  unfold load
  refine (agree_lift h.manifest).bind fun manifest manifest' ⟨hpins, hfiles⟩ => ?_
  refine (agree_lift (agree_checkFiles h.paths hfiles)).bind fun _ _ _ => ?_
  have hsorted : List.Forall₂ (ManifestFile.Refiled tree tree' directory)
      (manifest.files.mergeSort fun a b => decide (a.path ≤ b.path))
      (manifest'.files.mergeSort fun a b => decide (a.path ≤ b.path)) :=
    forall₂_mergeSort hfiles fun f f' g g' hf hg => by rw [hf.path_eq, hg.path_eq]
  have hverify := Except.Agree.mapM (hsorted.imp fun f f' hf => hf.agree_verifyFile)
  refine (agree_lift hverify).bind fun verified verified' hverified => ?_
  refine (agree_lift (agree_fileOfRole hverified "messages")).bind ?_
  rintro ⟨messagesPath, messagesBytes⟩ ⟨_, messagesBytes'⟩ ⟨hpath, hmessages⟩
  cases hpath
  refine (agree_lift (agree_fileOfRole hverified "fields")).bind ?_
  rintro ⟨fieldsPath, fieldsBytes⟩ ⟨_, fieldsBytes'⟩ ⟨hpath, hfields⟩
  cases hpath
  refine (agree_lift (agree_fileOfRole hverified "rules")).bind ?_
  rintro ⟨rulesPath, rulesBytes⟩ ⟨_, rulesBytes'⟩ ⟨hpath, hrules⟩
  cases hpath
  refine (agree_lift hmessages.agree_readMessages).bind fun messages _ heq => ?_
  cases heq
  refine (agree_lift hfields.agree_readFields).bind fun fields fields' hfields => ?_
  refine (agree_lift hrules.agree_readRules).bind fun rules rules' ⟨hrules, hfilter⟩ => ?_
  have hsame : Tables.SameRows ⟨messages, fields, rules⟩ ⟨messages, fields', rules'⟩ :=
    ⟨rfl, hfields, hrules, fun messageType tag => congrArg (List.map _) (hfilter messageType tag)⟩
  refine (agree_lift (hsame.agree_checkFields _ _)).bind fun _ _ _ => ?_
  refine (agree_lift (hsame.agree_checkRules _ _)).bind fun _ _ _ => ?_
  refine hsame.agree_checks.bind fun _ _ hschemas => ?_
  simp only [hschemas, hpins, ← hsorted.length_eq, hrules.length_eq]
  have harticles := rel_fileOfRole? directory hverified "ucp_rules"
  generalize fileOfRole? directory verified "ucp_rules" = found,
    fileOfRole? directory verified' "ucp_rules" = found' at harticles
  cases harticles with
  | none =>
    have hnone : Compiling.Agree (fun articles articles' : List ClassificationRule => articles = [] ∧ articles' = [])
        (pure [] : Loading _) (pure []) := .pure ⟨rfl, rfl⟩
    refine hnone.bind ?_
    rintro _ _ ⟨rfl, rfl⟩
    exact .pure ⟨.of_perm (.refl []) .nil, rfl⟩
  | @some found found' harticles =>
    obtain ⟨path, bytes⟩ := found
    obtain ⟨_, bytes'⟩ := found'
    obtain ⟨hpath, harticles⟩ := harticles
    cases hpath
    refine (agree_lift harticles.agree_readArticles).bind fun articles articles' ⟨hperm, hnodup⟩ => ?_
    exact .pure ⟨.of_perm hperm hnodup, by simp only [hperm.length_eq]⟩

/-- **The arrangement of its tables does not matter to a rule book.** Where the tables of a directory stand in another
arrangement, under a manifest with their hashes, either both directories are refused or both are loaded; and then the
schemas are equal, the articles are the same, and each category is judged by the same one. -/
theorem RuleBook.load_agree_of_rearranged (h : tree.Rearranged tree' directory) {cache cache' : FormatCache}
    (hcache : cache.Reachable) (hcache' : cache'.Reachable) :
    Except.Agree (fun loaded loaded' => loaded.1.SaysSame loaded'.1 ∧ loaded'.2 = loaded.2)
      (load tree directory cache).1 (load tree' directory cache').1 :=
  (agree_load h cache cache' hcache hcache').1

/-- A hash is well-formed. -/
theorem ManifestFile.isHash_hexHash (message : List UInt8) : isHash (Sha256.hexHash message) = true := by
  have hdigit : ∀ n < 16, (Text.hexValue? (Nat.digitChar n)).isSome := by decide
  have hlength : ((Sha256.hash message).map fun _ => 2).sum = 64 := by simp [Sha256.length_hash]
  simp only [isHash, Sha256.hexHash, Sha256.hex, String.length_ofList, String.toList_ofList, List.length_flatMap,
    List.length_cons, List.length_nil, hlength, List.all_flatMap, Bool.and_eq_true, decide_true, true_and,
    List.all_eq_true]
  intro b _
  have hb := b.toNat_lt
  simp [hdigit (b.toNat / 16) (by omega), hdigit (b.toNat % 16) (by omega)]

/-- A file that can be read in both trees, with its hash in each. -/
theorem ManifestFile.Refiled.of_read {f f' : ManifestFile} {bytes bytes' : List UInt8}
    (hentry : f' = { f with sha256 := f'.sha256 }) (hread : tree.read (Path.join directory f.path) = .ok bytes)
    (hread' : tree'.read (Path.join directory f.path) = .ok bytes') (hhash : Sha256.hexHash bytes = f.sha256)
    (hhash' : Sha256.hexHash bytes' = f'.sha256) (hmoved : TableMoved f.role bytes bytes') :
    f.Refiled tree tree' directory f' := by
  refine ⟨hentry, ?_, ?_⟩
  · rw [← hhash, ← hhash', isHash_hexHash, isHash_hexHash]
  · rw [hread, hread', ← hhash, ← hhash', Sha256.asciiLower_hexHash, Sha256.asciiLower_hexHash]
    exact .ok ⟨hmoved, iff_of_true rfl rfl⟩

end

/-! ## Two arrangements of a small rule book -/

namespace TwoArticleBook

def messages : List (List String) := [
  ["Message Type", "Name"],
  ["700", "Issue"]]

/-- The tables in one arrangement. -/
def fields : List (List String) := [
  ["Message Type", "Sequence", "Tag", "Field Name", "Format", "Mandatory"],
  ["700", "1", "20", "Number", "16x", "Y"],
  ["700", "2", "31C", "Date", "6!n", "N"]]

def rules : List (List String) := [
  ["Message Type", "Tag", "Rule Kind", "Max"],
  ["700", "20", "length", "16"],
  ["700", "31C", "date", ""]]

def articles : List (List String) := [
  ["Category", "Rule Reference", "Severity"],
  ["amount", "UCP600-18", "critical"],
  ["date", "UCP600-14c", "high"]]

/-- The tables in another one. -/
def movedFields : List (List String) := [
  ["Tag", "Message Type", "Sequence", "Field Name", "Mandatory", "Format"],
  ["31C", "700", "2", "Date", "N", "6!n"],
  ["20", "700", "1", "Number", "Y", "16x"]]

def movedRules : List (List String) := [
  ["Rule Kind", "Max", "Message Type", "Tag"],
  ["date", "", "700", "31C"],
  ["length", "16", "700", "20"]]

def movedArticles : List (List String) := [
  ["Severity", "Category", "Rule Reference"],
  ["high", "date", "UCP600-14c"],
  ["critical", "amount", "UCP600-18"]]

def manifestText : String := "[manifest]
schema = \"lc-checker.standards-manifest\"
schema_version = 1
[pins]
swift_mt = \"SR2023\"
ucp = \"UCP600\"
[[files]]
path = \"fields.csv\"
sha256 = \"cb4a045f66240dff535147fc4d4df17325448c2fc4426862e23a487e825d74ca\"
kind = \"csv\"
role = \"fields\"
[[files]]
path = \"messages.csv\"
sha256 = \"3728fa1b4f5a1392bf578d4c0fcfddda3b67a03e7acbd2db28be9844d8d2115f\"
kind = \"csv\"
role = \"messages\"
[[files]]
path = \"rules.csv\"
sha256 = \"6b4825b54846680505e18870a8e7c159ab4ea006cc6811bcb7d372ad8768810a\"
kind = \"csv\"
role = \"rules\"
[[files]]
path = \"ucp_rules.csv\"
sha256 = \"9cae142a5ca967e9bd129755652524be263db548545771de94cd2ebec195ec5d\"
kind = \"csv\"
role = \"ucp_rules\"
"

/-- The manifest with the hashes of the moved tables. -/
def movedManifestText : String := "[manifest]
schema = \"lc-checker.standards-manifest\"
schema_version = 1
[pins]
swift_mt = \"SR2023\"
ucp = \"UCP600\"
[[files]]
path = \"fields.csv\"
sha256 = \"2ff04e3f1ef6587c54060d4cf6fce351ad7d88c2b90c30d7692d19df93d133f4\"
kind = \"csv\"
role = \"fields\"
[[files]]
path = \"messages.csv\"
sha256 = \"3728fa1b4f5a1392bf578d4c0fcfddda3b67a03e7acbd2db28be9844d8d2115f\"
kind = \"csv\"
role = \"messages\"
[[files]]
path = \"rules.csv\"
sha256 = \"13fcdba826b54693cb4d95e952680bb95b68857d3bdfd559273cafea97106366\"
kind = \"csv\"
role = \"rules\"
[[files]]
path = \"ucp_rules.csv\"
sha256 = \"d75755295fc412b2ff5d39e2b3b235876be5143b4650be63ddaff87156d27eee\"
kind = \"csv\"
role = \"ucp_rules\"
"

/-- What the manifests say. -/
def manifestOf (fieldsHash rulesHash articlesHash : String) : Manifest where
  schema := manifestSchema
  schemaVersion := 1
  pins := ⟨"SR2023", "UCP600"⟩
  files := [⟨"fields.csv", fieldsHash, "csv", "fields", none⟩,
    ⟨"messages.csv", "3728fa1b4f5a1392bf578d4c0fcfddda3b67a03e7acbd2db28be9844d8d2115f", "csv", "messages", none⟩,
    ⟨"rules.csv", rulesHash, "csv", "rules", none⟩, ⟨"ucp_rules.csv", articlesHash, "csv", "ucp_rules", none⟩]

def manifest : Manifest :=
  manifestOf "cb4a045f66240dff535147fc4d4df17325448c2fc4426862e23a487e825d74ca"
    "6b4825b54846680505e18870a8e7c159ab4ea006cc6811bcb7d372ad8768810a"
    "9cae142a5ca967e9bd129755652524be263db548545771de94cd2ebec195ec5d"

def movedManifest : Manifest :=
  manifestOf "2ff04e3f1ef6587c54060d4cf6fce351ad7d88c2b90c30d7692d19df93d133f4"
    "13fcdba826b54693cb4d95e952680bb95b68857d3bdfd559273cafea97106366"
    "d75755295fc412b2ff5d39e2b3b235876be5143b4650be63ddaff87156d27eee"

/-- A directory with a manifest and four tables. -/
def treeOf (manifestText : String) (fields rules articles : List (List String)) : FileTree where
  files := [(["s", "manifest.toml"], Text.toBytes manifestText), (["s", "fields.csv"], Csv.tableBytes fields),
    (["s", "messages.csv"], Csv.tableBytes messages), (["s", "rules.csv"], Csv.tableBytes rules),
    (["s", "ucp_rules.csv"], Csv.tableBytes articles)]

def tree : FileTree := treeOf manifestText fields rules articles

def movedTree : FileTree := treeOf movedManifestText movedFields movedRules movedArticles

set_option maxRecDepth 10000 in
theorem read?_manifestText : Manifest.read? manifestText = some manifest := by
  rw [Manifest.read?, Toml.read?, show manifestText.toList = _ from String.toList_ofList]
  with_unfolding_all rfl

set_option maxRecDepth 10000 in
theorem read?_movedManifestText : Manifest.read? movedManifestText = some movedManifest := by
  rw [Manifest.read?, Toml.read?, show movedManifestText.toList = _ from String.toList_ofList]
  with_unfolding_all rfl

/-- The names of the tables' files. -/
def names : List String := ["fields.csv", "messages.csv", "rules.csv", "ucp_rules.csv"]

section

variable (text : String) (fields rules articles : List (List String))

theorem read_treeOf {name : String} {bytes : List UInt8} (hname : name ∈ "manifest.toml" :: names)
    (hfile : (treeOf text fields rules articles).file? ["s", name] = some bytes) :
    (treeOf text fields rules articles).read (Path.join "s" name) = .ok bytes := by
  have hplaces : ∀ name ∈ "manifest.toml" :: names, Path.place (Path.join "s" name) = ["s", name] ∧
      (Path.join "s" name).isEmpty = false ∧ Path.isDirectoryForm (Path.join "s" name) = false := by decide +kernel
  obtain ⟨hplace, hempty, hform⟩ := hplaces name hname
  exact FileTree.read_eq_ok_iff.2 ⟨by simpa using hempty, hplace ▸ hfile, hform⟩

variable {text}

theorem readManifest_treeOf {m : Manifest} (hread : Manifest.read? text = some m) (hschema : m.schema = manifestSchema)
    (hversion : m.schemaVersion = 1) : readManifest (treeOf text fields rules articles) "s" = .ok m :=
  readManifest_of_read (read_treeOf _ _ _ _ (by simp) rfl) hread hschema hversion

variable {fields rules articles}

/-- The articles are those of the file. -/
theorem articles_of_load {fieldsHash rulesHash articlesHash : String} {rows : List ClassificationRule}
    {book : RuleBook} {summary : RuleBookSummary} {cache : FormatCache}
    (hread : Manifest.read? text = some (manifestOf fieldsHash rulesHash articlesHash))
    (hrows : readArticles (Path.join "s" "ucp_rules.csv") (Csv.tableBytes articles) = .ok rows)
    (h : RuleBook.load (treeOf text fields rules articles) "s" {} = (.ok (book, summary), cache)) :
    book.articles = rows := by
  obtain ⟨t, hloaded⟩ := RuleBook.exists_loaded .empty h
  have hmanifest : book.manifest = manifestOf fieldsHash rulesHash articlesHash :=
    Except.ok.inj (hloaded.manifest.symm.trans (readManifest_treeOf _ _ _ hread rfl rfl))
  have hlisted : ManifestFile.mk "ucp_rules.csv" articlesHash "csv" "ucp_rules" none ∈ book.manifest.files := by
    simp [hmanifest, manifestOf]
  obtain ⟨f, bytes, hholds, harticles⟩ | ⟨hnone, -⟩ := hloaded.articles
  · have hf : f = ⟨"ucp_rules.csv", articlesHash, "csv", "ucp_rules", none⟩ :=
      List.inj_on_of_nodup_map hloaded.roles hholds.mem hlisted hholds.role_eq
    subst hf
    have hfile : (treeOf text fields rules articles).read (Path.join "s" "ucp_rules.csv") =
        .ok (Csv.tableBytes articles) := read_treeOf _ _ _ _ (by simp [names]) rfl
    obtain rfl := Except.ok.inj (hfile.symm.trans hholds.read)
    exact Except.ok.inj (harticles.symm.trans hrows)
  · exact absurd rfl (hnone _ hlisted)

end

/-! ### The tables -/

/-- The tables of both directories with the hashes of their files. -/
def filed : List (List (List String) × String) := [
  (messages, "3728fa1b4f5a1392bf578d4c0fcfddda3b67a03e7acbd2db28be9844d8d2115f"),
  (fields, "cb4a045f66240dff535147fc4d4df17325448c2fc4426862e23a487e825d74ca"),
  (rules, "6b4825b54846680505e18870a8e7c159ab4ea006cc6811bcb7d372ad8768810a"),
  (articles, "9cae142a5ca967e9bd129755652524be263db548545771de94cd2ebec195ec5d"),
  (movedFields, "2ff04e3f1ef6587c54060d4cf6fce351ad7d88c2b90c30d7692d19df93d133f4"),
  (movedRules, "13fcdba826b54693cb4d95e952680bb95b68857d3bdfd559273cafea97106366"),
  (movedArticles, "d75755295fc412b2ff5d39e2b3b235876be5143b4650be63ddaff87156d27eee")]

-- Evaluation follows the characters of the cells.
set_option maxRecDepth 10000 in
theorem filed_of_mem {table : List (List String)} {hash : String} (h : (table, hash) ∈ filed) :
    Bundled.Filed table hash := by
  have hfiled : ∀ f ∈ filed, Bundled.Filed f.1 f.2 := by
    simp only [filed, List.forall_mem_cons]
    refine ⟨?_, ?_, ?_, ?_, ?_, ?_, ?_, nofun⟩
    all_goals
      apply Bundled.Filed.of_spelled
      · simp only [messages, fields, rules, articles, movedFields, movedRules, movedArticles]
        repeat' constructor
      · decide +kernel
      · rw [Sha256.hexHash, Sha256.hash_eq]
        decide +kernel
  exact hfiled (table, hash) h

theorem hexHash_of_mem {table : List (List String)} {hash : String} (h : (table, hash) ∈ filed) :
    Sha256.hexHash (Csv.tableBytes table) = hash := by
  rw [← Bundled.toBytes_tableText, (filed_of_mem h).hash]

theorem read_tableBytes {table : List (List String)} (h : table ∈ filed.map (·.1)) :
    Csv.read (Csv.tableBytes table) = .ok ⟨table.headD [], table.tail⟩ := by
  obtain ⟨⟨table, hash⟩, hmem, rfl⟩ := List.mem_map.1 h
  obtain ⟨hne, hplain, -⟩ := filed_of_mem hmem
  cases table with
  | nil => exact absurd rfl hne
  | cons header rows => exact Csv.read_tableBytes hne hplain

/-- Each of the moved tables is the other one with its rows turned around and its columns elsewhere. -/
theorem tableMoved {role : String} {table table' : List (List String)}
    (h : (table, table') ∈ [(fields, movedFields), (rules, movedRules), (articles, movedArticles)])
    (hrules : role = "rules" → ∀ messageType tag,
      table.tail.reverse.filter (Csv.Table.names ⟨table.headD [], table.tail⟩ messageType tag) =
        table.tail.filter (Csv.Table.names ⟨table.headD [], table.tail⟩ messageType tag)) :
    TableMoved role (Csv.tableBytes table) (Csv.tableBytes table') := by
  have hmoved : ∀ tables ∈ [(fields, movedFields), (rules, movedRules), (articles, movedArticles)],
      tables.1 ∈ filed.map (·.1) ∧ tables.2 ∈ filed.map (·.1) ∧
      (tables.2.headD []).Perm (tables.1.headD []) ∧ (tables.1.headD []).Nodup ∧
      List.Forall₂ (fun row row' => ((tables.2.headD []).zip row').Perm ((tables.1.headD []).zip row))
        tables.1.tail.reverse tables.2.tail := by decide +kernel
  obtain ⟨hmem, hmem', hcolumns, hnodup, hcells⟩ := hmoved _ h
  exact .rearranged (read_tableBytes hmem) (read_tableBytes hmem')
    ⟨List.reverse_perm _, hcolumns, hcells, .inl hnodup⟩ hrules

/-- The rows of the tables. -/
def tables : Tables where
  messages := [⟨"700", "Issue", ""⟩]
  fields := [⟨"700", ⟨"20", "Number", "16x", true, 1, none, 1, []⟩⟩,
    ⟨"700", ⟨"31C", "Date", "6!n", false, 2, none, 1, []⟩⟩]
  rules := [⟨"700", "20", .length 0 16⟩, ⟨"700", "31C", .date 0⟩]

/-- What the files are read as. -/
theorem read_files :
    readTable (Path.join "s" "messages.csv") (Csv.tableBytes messages) MessageRow.read = .ok tables.messages ∧
    readFields (Path.join "s" "fields.csv") (Csv.tableBytes fields) = .ok tables.fields ∧
    readRules (Path.join "s" "rules.csv") (Csv.tableBytes rules) = .ok tables.rules ∧
    readArticles (Path.join "s" "ucp_rules.csv") (Csv.tableBytes articles) =
      .ok [⟨.amount, "UCP600-18", .critical, "", ""⟩, ⟨.date, "UCP600-14c", .high, "", ""⟩] ∧
    readArticles (Path.join "s" "ucp_rules.csv") (Csv.tableBytes movedArticles) =
      .ok [⟨.date, "UCP600-14c", .high, "", ""⟩, ⟨.amount, "UCP600-18", .critical, "", ""⟩] := by decide +kernel

theorem schema_eq : tables.messages.map tables.schema =
    [⟨"700", "Issue", "", [⟨"20", "Number", "16x", true, 1, none, 1, [.length 0 16]⟩,
      ⟨"31C", "Date", "6!n", false, 2, none, 1, [.date 0]⟩]⟩] := by cbv

theorem filter_reverse_pair {α : Type} {p : α → Bool} {a b : α} (h : p a = true → p b = false) :
    [a, b].reverse.filter p = [a, b].filter p := by
  cases ha : p a with
  | false => cases hb : p b <;> simp [ha, hb]
  | true => simp [ha, h ha]

/-- No field is named by both rules. -/
theorem rules_keep_order (messageType tag : String) :
    rules.tail.reverse.filter (Csv.Table.names ⟨rules.headD [], rules.tail⟩ messageType tag) =
      rules.tail.filter (Csv.Table.names ⟨rules.headD [], rules.tail⟩ messageType tag) := by
  let table : Csv.Table := ⟨rules.headD [], rules.tail⟩
  have htags : ∀ row ∈ rules.tail.zip ["20", "31C"], (table.get? row.1 "Tag").map Text.asciiUpper = some row.2 := by
    decide +kernel
  have hfirst := htags (rules.tail[0], "20") (by simp [rules])
  have hsecond := htags (rules.tail[1], "31C") (by simp [rules])
  have hnot : table.names messageType tag rules.tail[0] = true → table.names messageType tag rules.tail[1] = false := by
    unfold Csv.Table.names
    rw [hfirst, hsecond]
    simp only [decide_eq_true_eq, decide_eq_false_iff_not, Option.some.injEq]
    rintro ⟨-, rfl⟩ ⟨-, h⟩
    exact absurd h (by decide)
  exact filter_reverse_pair hnot

theorem refiled {f f' : ManifestFile} {table table' : List (List String)} (hentry : f' = { f with sha256 := f'.sha256 })
    (hname : f.path ∈ names) (hfile : tree.file? ["s", f.path] = some (Csv.tableBytes table))
    (hfile' : movedTree.file? ["s", f.path] = some (Csv.tableBytes table')) (h : (table, f.sha256) ∈ filed)
    (h' : (table', f'.sha256) ∈ filed) (hmoved : TableMoved f.role (Csv.tableBytes table) (Csv.tableBytes table')) :
    f.Refiled tree movedTree "s" f' :=
  .of_read hentry (read_treeOf _ _ _ _ (.tail _ hname) hfile) (read_treeOf _ _ _ _ (.tail _ hname) hfile')
    (hexHash_of_mem h) (hexHash_of_mem h') hmoved

theorem rearranged : tree.Rearranged movedTree "s" := by
  refine ⟨by simp only [movedTree, tree, treeOf, List.map_cons, List.map_nil], ?_⟩
  have hmanifest : readManifest tree "s" = .ok manifest := readManifest_treeOf _ _ _ read?_manifestText rfl rfl
  have hmanifest' : readManifest movedTree "s" = .ok movedManifest :=
    readManifest_treeOf _ _ _ read?_movedManifestText rfl rfl
  rw [hmanifest, hmanifest']
  refine .ok ⟨rfl, .cons ?_ (.cons ?_ (.cons ?_ (.cons ?_ .nil)))⟩
  · exact refiled rfl (by simp [names]) rfl rfl (by simp [filed]) (by simp [filed]) (tableMoved (by simp) nofun)
  · exact refiled rfl (by simp [names]) rfl rfl (by simp [filed]) (by simp [filed]) .same
  · exact refiled rfl (by simp [names]) rfl rfl (by simp [filed]) (by simp [filed])
      (tableMoved (by simp) fun _ => rules_keep_order)
  · exact refiled rfl (by simp [names]) rfl rfl (by simp [filed]) (by simp [filed]) (tableMoved (by simp) nofun)

/-! ### Loading -/

theorem fits : manifest.Fits tree "s" := by
  have hcomponents : ∀ f ∈ manifest.files, Path.components f.path = [f.path] ∧ f.check = .ok f.path := by decide +kernel
  refine ⟨by decide, by decide +kernel, by decide +kernel, fun f hf => (hcomponents f hf).2,
    fun parts bytes hne hmem => ?_⟩
  have hlisted : ∀ path ∈ names, ∃ f ∈ manifest.files, Path.components f.path = [path] := by decide +kernel
  rw [show Path.place "s" = ["s"] by decide +kernel] at hmem
  simp only [tree, treeOf, List.mem_cons, Prod.mk.injEq, List.cons_append, List.nil_append, List.cons.injEq, true_and,
    List.not_mem_nil, or_false] at hmem
  rcases hmem with ⟨rfl, -⟩ | ⟨rfl, -⟩ | ⟨rfl, -⟩ | ⟨rfl, -⟩ | ⟨rfl, -⟩
  · exact .inl rfl
  all_goals exact .inr (hlisted _ (by simp [names]))

theorem verifyFile_tree {f : ManifestFile} {table : List (List String)} (hname : f.path ∈ names)
    (hfile : tree.file? ["s", f.path] = some (Csv.tableBytes table)) (h : (table, f.sha256) ∈ filed) :
    verifyFile tree "s" f = .ok (f, Csv.tableBytes table) := by
  refine verifyFile_eq_ok_iff.2 ⟨rfl, read_treeOf _ _ _ _ (.tail _ hname) hfile, ?_⟩
  rw [← hexHash_of_mem h, Sha256.asciiLower_hexHash]

theorem exists_load : ∃ book summary cache, RuleBook.load tree "s" {} = (.ok (book, summary), cache) := by
  have hverified : (manifest.files.mergeSort fun a b => decide (a.path ≤ b.path)).mapM (verifyFile tree "s") =
      .ok (manifest.files.zip
        [Csv.tableBytes fields, Csv.tableBytes messages, Csv.tableBytes rules, Csv.tableBytes articles]) := by
    rw [List.mergeSort_of_pairwise (by simp [manifest, manifestOf])]
    refine Except.mapM_eq_ok_iff.2 (.cons ?_ (.cons ?_ (.cons ?_ (.cons ?_ .nil))))
    all_goals exact verifyFile_tree (by simp [names]) rfl (by simp [filed])
  obtain ⟨hrows, hfields, hrules, harticles, -⟩ := read_files
  have hmessages : readMessages (Path.join "s" "messages.csv") (Csv.tableBytes messages) = .ok tables.messages := by
    unfold readMessages
    rw [hrows]
    simp [tables, bind, Except.bind, listedTwice?]
  have hschemas : ∀ schema ∈ tables.messages.map tables.schema, (schema.check {}).1 = .ok () := by
    rw [schema_eq]
    decide +kernel
  obtain ⟨book, summary, cache, h, -⟩ := RuleBook.exists_load
    (readManifest_treeOf _ _ _ read?_manifestText rfl rfl) fits hverified rfl rfl rfl hmessages hfields hrules
    (by decide +kernel) (by decide +kernel) hschemas fun found hfound => Option.some.inj hfound ▸ ⟨_, harticles⟩
  exact ⟨book, summary, cache, h⟩

end TwoArticleBook

/-- Both directories are loaded, and the rule books say the same. -/
theorem RuleBook.load_agree_of_rearranged_twoArticleBook : TwoArticleBook.tree.Rearranged TwoArticleBook.movedTree "s" ∧
    FormatCache.Reachable {} ∧ ∃ book summary book' summary',
      (load TwoArticleBook.tree "s" {}).1 = .ok (book, summary) ∧
      (load TwoArticleBook.movedTree "s" {}).1 = .ok (book', summary') ∧ book.SaysSame book' ∧ summary' = summary := by
  obtain ⟨book, summary, cache, h⟩ := TwoArticleBook.exists_load
  obtain ⟨⟨book', summary'⟩, h', hsame, hsummary⟩ :=
    (RuleBook.load_agree_of_rearranged TwoArticleBook.rearranged .empty .empty).exists_of_ok (congrArg Prod.fst h)
  exact ⟨TwoArticleBook.rearranged, .empty, book, summary, book', summary', congrArg Prod.fst h, h', hsame, hsummary⟩

/-- The articles of the two rule books are listed in the order of their files, which is not the same. -/
theorem RuleBook.articles_ne_twoArticleBook : TwoArticleBook.tree.Rearranged TwoArticleBook.movedTree "s" ∧
    ∃ book summary cache book' summary' cache', load TwoArticleBook.tree "s" {} = (.ok (book, summary), cache) ∧
      load TwoArticleBook.movedTree "s" {} = (.ok (book', summary'), cache') ∧ book'.articles ≠ book.articles := by
  obtain ⟨book, summary, cache, h⟩ := TwoArticleBook.exists_load
  obtain ⟨⟨book', summary'⟩, cache', h', -⟩ := (agree_load TwoArticleBook.rearranged).exists_of_ok .empty .empty h
  refine ⟨TwoArticleBook.rearranged, book, summary, cache, book', summary', cache', h, h', ?_⟩
  obtain ⟨-, -, -, harticles, harticles'⟩ := TwoArticleBook.read_files
  rw [TwoArticleBook.articles_of_load TwoArticleBook.read?_manifestText harticles h,
    TwoArticleBook.articles_of_load TwoArticleBook.read?_movedManifestText harticles' h']
  simp

end DocumentaryCredit

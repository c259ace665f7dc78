/-
The seal of a rule book. What a rule book is read from is listed in its manifest, with the hash of its bytes, and lies
below its directory (`RuleBook.Sealed`). Main statement: a directory from which a rule book was loaded can no longer be
loaded, under the same manifest, once a listed file has other bytes or is gone, or a file that is not listed has come in
(`Tampered`), however far below the directory that may be.
-/
import DocumentaryCredit.Proofs.Standards.Loading

namespace DocumentaryCredit

/-- The rule book is made of tables that its manifest lists, and what the manifest lists is below the directory. -/
structure RuleBook.Sealed (book : RuleBook) (tree : FileTree) (directory : String) : Prop where
  tables : ∃ t, book.ReadFrom tree directory t ∧
    book.schemas = TextMap.ofList (t.messages.map fun m => (m.messageType, t.schema m))
  confined : ∀ f ∈ book.manifest.files, Path.components f.path ≠ [] ∧
    Path.place (Path.join directory f.path) = Path.place directory ++ Path.components f.path

/-- A tree that comes of another one by tampering with the files of a rule book. -/
inductive Tampered (tree : FileTree) (directory : String) (manifest : Manifest) : FileTree → Prop where
  /-- A listed file has bytes of another hash. -/
  | replaced {f : ManifestFile} {bytes other : List UInt8} (hf : f ∈ manifest.files)
      (hread : tree.read (Path.join directory f.path) = .ok bytes)
      (hhash : Sha256.hexHash other ≠ Sha256.hexHash bytes) :
      Tampered tree directory manifest (tree.put (Path.join directory f.path) other)
  /-- A listed file is gone. -/
  | deleted {f : ManifestFile} (hf : f ∈ manifest.files) :
      Tampered tree directory manifest (tree.remove (Path.join directory f.path))
  /-- There is a file below the directory that is not listed. -/
  | added {path : String} {parts : List String} {bytes : List UInt8}
      (hplace : Path.place path = Path.place directory ++ parts) (hne : parts ≠ [])
      (hmanifest : parts ≠ ["manifest.toml"])
      (hunlisted : ∀ f ∈ manifest.files, Path.components f.path ≠ parts) :
      Tampered tree directory manifest (tree.put path bytes)

section

variable {tree tree' : FileTree} {directory : String} {book book' : RuleBook} {summary summary' : RuleBookSummary}
  {t t' : Tables}

/-- The manifest is read from the bytes under its path. -/
theorem readManifest_congr
    (h : tree'.read (Path.join directory "manifest.toml") = tree.read (Path.join directory "manifest.toml")) :
    readManifest tree' directory = readManifest tree directory := by
  unfold readManifest FileTree.readText
  simp only [h]

namespace RuleBook.Loaded

theorem confined (h : book.Loaded summary tree directory t) {f : ManifestFile} (hf : f ∈ book.manifest.files) :
    Path.components f.path ≠ [] ∧
      Path.place (Path.join directory f.path) = Path.place directory ++ Path.components f.path := by
  obtain ⟨-, habsolute, hback⟩ := ManifestFile.of_check (h.fits.entries f hf)
  refine ⟨fun hnothing => ?_, Path.place_join h.fits.directory_ne habsolute hback⟩
  obtain ⟨bytes, hread, -⟩ := h.intact f hf
  have hform := (FileTree.read_eq_ok_iff.1 hread).2.2
  rw [Path.isDirectoryForm_join h.fits.directory_ne habsolute hnothing] at hform
  cases hform

theorem sealed (h : book.Loaded summary tree directory t) : book.Sealed tree directory :=
  ⟨⟨t, h.toReadFrom, h.schemas⟩, fun _ => h.confined⟩

/-- No rule book is loaded from two trees, under the same manifest, of which one comes of tampering with the other. -/
theorem not_tampered (h : book.Loaded summary tree directory t) (h' : book'.Loaded summary' tree' directory t')
    (hmanifest : book'.manifest = book.manifest) : ¬ Tampered tree directory book.manifest tree' := by
  rintro htampered
  cases htampered with
  | @replaced f bytes other hf hread hhash =>
    obtain ⟨bytes', hread', hintact'⟩ := h'.intact f (hmanifest ▸ hf)
    obtain ⟨bytes'', hread'', hintact⟩ := h.intact f hf
    have hfile := (FileTree.read_eq_ok_iff.1 hread').2.1
    rw [FileTree.file?_put, if_pos rfl] at hfile
    cases hfile
    cases hread.symm.trans hread''
    exact hhash (hintact'.trans hintact.symm)
  | @deleted f hf =>
    obtain ⟨bytes', hread', -⟩ := h'.intact f (hmanifest ▸ hf)
    have hfile := (FileTree.read_eq_ok_iff.1 hread').2.1
    rw [FileTree.file?_remove, if_pos rfl] at hfile
    cases hfile
  | @added path parts bytes hplace hne hother hunlisted =>
    have hmem : (Path.place directory ++ parts, bytes) ∈ (tree.put path bytes).files := by
      simp [FileTree.put, hplace]
    rcases h'.fits.listed parts bytes hne hmem with rfl | ⟨f, hf, hparts⟩
    · exact hother rfl
    · exact hunlisted f (hmanifest ▸ hf) hparts

end RuleBook.Loaded

/-- **A rule book that has been loaded is sealed**: what it is made of is pinned by its manifest, and no tree that comes
of tampering with its files, under the same manifest, can be loaded. -/
theorem RuleBook.sealed_of_load {cache cache' : FormatCache} (hcache : cache.Reachable)
    (h : RuleBook.load tree directory cache = (.ok (book, summary), cache')) :
    book.Sealed tree directory ∧ ∀ tree', Tampered tree directory book.manifest tree' →
      tree'.read (Path.join directory "manifest.toml") = tree.read (Path.join directory "manifest.toml") →
      ∀ later : FormatCache, later.Reachable → ∃ e, (RuleBook.load tree' directory later).1 = .error e := by
  obtain ⟨t, hloaded⟩ := exists_loaded hcache h
  refine ⟨hloaded.sealed, fun tree' htampered hsame later hlater => ?_⟩
  rcases hrun : RuleBook.load tree' directory later with ⟨e | ⟨book', summary'⟩, after⟩
  · exact ⟨e, rfl⟩
  · obtain ⟨t', hloaded'⟩ := exists_loaded hlater hrun
    have hmanifest : book'.manifest = book.manifest := by
      have heq := (readManifest_congr hsame).symm.trans hloaded'.manifest
      exact Except.ok.inj (heq.symm.trans hloaded.manifest)
    exact absurd htampered (hloaded.not_tampered hloaded' hmanifest)

end

/-- The small rule book is sealed: without its rules, with an empty table of them, and with one more file in a directory
below, it is refused. -/
theorem RuleBook.sealed_of_load_smallBook : ∃ book summary cache, FormatCache.Reachable {} ∧
    RuleBook.load SmallBook.tree "s" {} = (.ok (book, summary), cache) ∧ book.Sealed SmallBook.tree "s" ∧
    (∃ e, (RuleBook.load (SmallBook.tree.remove (Path.join "s" "rules.csv")) "s" {}).1 = .error e) ∧
    (∃ e, (RuleBook.load (SmallBook.tree.put (Path.join "s" "rules.csv") []) "s" {}).1 = .error e) ∧
    ∃ e, (RuleBook.load (SmallBook.tree.put "s/old/rules.csv" []) "s" {}).1 = .error e := by
  obtain ⟨book, summary, cache, h⟩ := SmallBook.exists_load
  obtain ⟨hsealed, htampered⟩ := RuleBook.sealed_of_load .empty h
  obtain ⟨t, hreadFrom, -⟩ := hsealed.tables
  have hmanifest : book.manifest = SmallBook.manifest :=
    Except.ok.inj (hreadFrom.manifest.symm.trans SmallBook.readManifest_eq)
  have hrules : SmallBook.manifest.files[2] ∈ book.manifest.files := by
    rw [hmanifest]
    exact List.getElem_mem _
  have hplace : Path.place (Path.join "s" "rules.csv") = ["s", "rules.csv"] := by decide +kernel
  have hother : Path.place (Path.join "s" "manifest.toml") ≠ Path.place (Path.join "s" "rules.csv") := by decide +kernel
  have hread : SmallBook.tree.read (Path.join "s" "rules.csv") = .ok (Text.toBytes SmallBook.rules) := by
    refine FileTree.read_eq_ok_iff.2 ⟨by decide +kernel, ?_, by decide +kernel⟩
    rw [hplace]
    simp [SmallBook.tree, FileTree.file?]
  refine ⟨book, summary, cache, .empty, h, hsealed, ?_, ?_, ?_⟩
  · refine htampered _ (.deleted hrules) ?_ {} .empty
    rw [SmallBook.read_manifest]
    exact FileTree.read_remove_of_ne SmallBook.read_manifest hother
  · have hhash : Sha256.hexHash [] ≠ Sha256.hexHash (Text.toBytes SmallBook.rules) := by decide +kernel
    refine htampered _ (.replaced hrules hread hhash) ?_ {} .empty
    rw [SmallBook.read_manifest]
    exact FileTree.read_put_of_ne SmallBook.read_manifest hother _
  · have hadded : Path.place "s/old/rules.csv" = Path.place "s" ++ ["old", "rules.csv"] := by decide +kernel
    have hunlisted : ∀ f ∈ book.manifest.files, Path.components f.path ≠ ["old", "rules.csv"] := by
      rw [hmanifest]
      decide +kernel
    refine htampered _ (.added hadded (by decide) (by decide) hunlisted) ?_ {} .empty
    rw [SmallBook.read_manifest]
    exact FileTree.read_put_of_ne SmallBook.read_manifest (by decide +kernel) _

end DocumentaryCredit

/-
Paths and trees of files. What lies under a path that is given from within a directory lies below the directory
(`Path.resolve_join`), so that the files below a directory are those of such paths; putting and removing a file changes
what is under its own path only.
-/
import DocumentaryCredit.FileTree
import DocumentaryCredit.Proofs.Text
import DocumentaryCredit.Proofs.TextMap

namespace DocumentaryCredit

/-! ## Paths -/

namespace Path

/-- The place in a tree that a path names. -/
abbrev place (path : String) : List String := resolve (components path)

theorem resolve_append_of_not_mem (a : List String) :
    ∀ {b : List String}, ".." ∉ b → resolve (a ++ b) = resolve a ++ b := by
  intro b
  induction b using List.reverseRecOn with
  | nil => simp
  | append_singleton b part ih =>
    intro hb
    have hpart : part ≠ ".." := fun h => hb (by simp [h])
    rw [← List.append_assoc, resolve, List.foldl_append, ← resolve, ih fun h => hb (List.mem_append_left _ h)]
    simp [hpart]

theorem segments_append_slash (a b : String) : segments (a ++ "/" ++ b) = segments a ++ segments b := by
  have hsplit := List.splitOnP_append_cons (p := fun c => c == '/') a.toList b.toList (beq_self_eq_true '/')
  have htext : (a ++ "/" ++ b).toList = a.toList ++ '/' :: b.toList := by simp
  unfold segments Text.splitOn
  rw [← List.map_append, Text.splitWhere_eq_splitOnP, Text.splitWhere_eq_splitOnP, Text.splitWhere_eq_splitOnP, htext,
    hsplit]

/-- The parts between slashes that count. -/
def named (path : String) : List String := (segments path).filter fun part => !part.isEmpty && part != "."

theorem named_append_slash (a b : String) : named (a ++ "/" ++ b) = named a ++ named b := by
  unfold named
  rw [segments_append_slash, List.filter_append]

theorem components_eq (path : String) :
    components path = if path.toList.head? = some '/' then "/" :: named path else named path := rfl

/-- What is given from within a directory, with a slash between. -/
theorem exists_join_eq {directory path : String} (hdirectory : directory ≠ "") (hpath : path.toList.head? ≠ some '/') :
    ∃ front, join directory path = front ++ "/" ++ path ∧ named directory = named front ∧
      (front ++ "/").toList.head? = directory.toList.head? := by
  have hne : directory.toList ≠ [] := fun h => hdirectory (String.toList_eq_nil_iff.1 h)
  unfold join
  rw [if_neg (by simp [hpath, hdirectory])]
  split
  · next hlast =>
    obtain ⟨front, hfront⟩ := List.getLast?_eq_some_iff.1 hlast
    have heq : directory = String.ofList front ++ "/" := by
      rw [← String.toList_inj, hfront]
      simp
    have hnamed := named_append_slash (String.ofList front) ""
    rw [String.append_empty] at hnamed
    refine ⟨String.ofList front, by rw [heq], ?_, by rw [heq]⟩
    rw [heq, hnamed]
    exact List.append_nil _
  · refine ⟨directory, rfl, rfl, ?_⟩
    rw [String.toList_append, List.head?_append_of_ne_nil _ hne]

/-- The parts of a relative path follow those of the directory from within which it is given. -/
theorem components_join {directory path : String} (hdirectory : directory ≠ "") (hpath : path.toList.head? ≠ some '/') :
    components (join directory path) = components directory ++ components path := by
  obtain ⟨front, hjoin, hnamed, hhead⟩ := exists_join_eq hdirectory hpath
  have hroot : (front ++ "/" ++ path).toList.head? = directory.toList.head? := by
    rw [← hhead, show (front ++ "/" ++ path).toList = (front ++ "/").toList ++ path.toList from String.toList_append,
      List.head?_append_of_ne_nil _ (by simp)]
  rw [hjoin, components_eq, components_eq, components_eq path, hroot, named_append_slash, hnamed, if_neg hpath]
  split <;> simp

/-- A relative path that does not go back leads to a place below the directory. -/
theorem place_join {directory path : String} (hdirectory : directory ≠ "") (hpath : path.toList.head? ≠ some '/')
    (hback : ".." ∉ components path) : place (join directory path) = place directory ++ components path := by
  rw [place, components_join hdirectory hpath, resolve_append_of_not_mem _ hback]

/-- A path that names nothing below its directory has the form of a directory. -/
theorem isDirectoryForm_join {directory path : String} (hdirectory : directory ≠ "")
    (hpath : path.toList.head? ≠ some '/') (hnothing : components path = []) :
    isDirectoryForm (join directory path) = true := by
  obtain ⟨front, hjoin, -, -⟩ := exists_join_eq hdirectory hpath
  have hne : segments path ≠ [] := by
    unfold segments Text.splitOn
    rw [Text.splitWhere_eq_splitOnP]
    simp
  have hlast := List.getLast_mem hne
  rw [components_eq, if_neg hpath, named, List.filter_eq_nil_iff] at hnothing
  rw [isDirectoryForm, hjoin, segments_append_slash, List.getLast?_append_of_ne_nil _ hne,
    List.getLast?_eq_some_getLast hne]
  simpa [or_iff_not_imp_left] using hnothing _ hlast

end Path

/-! ## Trees -/

namespace FileTree

variable {t : FileTree} {path other : String} {parts : List String} {bytes : List UInt8}

/-- The files below a directory, by their paths from it. -/
theorem mem_filesBelow_iff {directory : String} {found : List (List String)} (h : t.filesBelow directory = .ok found) :
    parts ∈ found ↔ parts ≠ [] ∧ ∃ bytes, (Path.place directory ++ parts, bytes) ∈ t.files := by
  unfold filesBelow at h
  simp only at h
  split at h
  · cases h
  cases h
  rw [List.mem_mergeSort, List.mem_filterMap]
  constructor
  · rintro ⟨⟨whole, bytes⟩, hentry, heq⟩
    split at heq
    · next hbelow =>
      cases heq
      simp only [Bool.and_eq_true, List.isPrefixOf_iff_prefix, bne_iff_ne, ne_eq] at hbelow
      obtain ⟨⟨parts, rfl⟩, hne⟩ := hbelow
      rw [List.drop_left]
      refine ⟨fun hnil => hne ?_, bytes, hentry⟩
      rw [hnil, List.append_nil]
    · cases heq
  · rintro ⟨hne, bytes, hmem⟩
    exact ⟨_, hmem, by simp [hne]⟩

theorem exists_filesBelow_iff {directory : String} :
    (∃ found, t.filesBelow directory = .ok found) ↔ directory ≠ "" := by
  unfold filesBelow
  simp only
  split
  · next hempty => simp [String.isEmpty_iff.1 hempty]
  · next hne => simpa using hne

theorem read_eq_ok_iff : t.read path = .ok bytes ↔
    path ≠ "" ∧ t.file? (Path.place path) = some bytes ∧ Path.isDirectoryForm path = false := by
  unfold read
  simp only
  split
  · next hempty => simp [String.isEmpty_iff.1 hempty]
  next hempty =>
  rw [String.isEmpty_iff] at hempty
  split
  · next found hfile =>
    rw [hfile]
    split <;> simp_all
  · next hfile =>
    rw [hfile]
    split
    · simp
    split <;> simp

theorem readText_of_read {s : String} (h : t.read path = .ok (Text.toBytes s)) : t.readText path = .ok s := by
  simp only [readText, h, bind, Except.bind, Text.ofBytes?_toBytes]

theorem find?_filter_ne (files : List (List String × List UInt8)) (place parts : List String) :
    (files.filter (·.1 != place)).find? (·.1 == parts) =
      if parts = place then none else files.find? (·.1 == parts) := by
  rw [List.find?_filter]
  split
  · next heq => simp [heq]
  · next hne =>
    congr 1
    funext entry
    by_cases hentry : entry.1 = parts
    · simp [hentry, hne]
    · simp [hentry]

/-- What is under the paths once a file has been put under one. -/
theorem file?_put (t : FileTree) (path : String) (bytes : List UInt8) (parts : List String) :
    (t.put path bytes).file? parts = if parts = Path.place path then some bytes else t.file? parts := by
  unfold put file?
  rw [List.find?_append, find?_filter_ne]
  split
  · next heq => simp [heq]
  · next hne => simp [Ne.symm hne]

/-- What is under the paths once the file under one has been removed. -/
theorem file?_remove (t : FileTree) (path : String) (parts : List String) :
    (t.remove path).file? parts = if parts = Path.place path then none else t.file? parts := by
  unfold remove file?
  rw [find?_filter_ne]
  split <;> rfl

/-- Files that are put under places of their own stand behind those that are there. -/
theorem files_foldl_put {α : Type} {path : α → String} {content : α → List UInt8} : ∀ {items : List α} {t : FileTree},
    (items.map fun item => Path.place (path item)).Nodup →
      (∀ item ∈ items, ∀ old ∈ t.files, old.1 ≠ Path.place (path item)) →
        (items.foldl (fun t item => t.put (path item) (content item)) t).files =
          t.files ++ items.map fun item => (Path.place (path item), content item)
  | [], t, _, _ => by simp
  | item :: items, t, hnodup, hnew => by
    obtain ⟨hitem, hnodup⟩ := List.nodup_cons.1 hnodup
    obtain ⟨hfirst, hnew⟩ := List.forall_mem_cons.1 hnew
    have hput : (t.put (path item) (content item)).files = t.files ++ [(Path.place (path item), content item)] := by
      unfold put
      simp only
      rw [List.filter_eq_self.2 fun old hold => by simpa using hfirst old hold]
    have hrest : ∀ other ∈ items, ∀ old ∈ (t.put (path item) (content item)).files, old.1 ≠ Path.place (path other) := by
      intro other hother old hold
      rw [hput, List.mem_append, List.mem_singleton] at hold
      rcases hold with hold | rfl
      · exact hnew other hother old hold
      · exact fun heq => hitem (List.mem_map.2 ⟨other, hother, heq.symm⟩)
    rw [List.foldl_cons, files_foldl_put hnodup hrest, hput]
    simp

theorem file?_of_mem (hnodup : (t.files.map (·.1)).Nodup) (h : (parts, bytes) ∈ t.files) :
    t.file? parts = some bytes := by
  rw [file?, (find?_eq_some_iff_of_nodup hnodup fun _ _ => beq_iff_eq).2 ⟨h, rfl⟩]
  rfl

/-- A file that is written is put under its path, and can be read there. -/
theorem eq_put_of_write {after : FileTree} (h : t.write path bytes = .ok after) :
    after = t.put path bytes ∧ after.read path = .ok bytes := by
  unfold write at h
  simp only at h
  split at h
  · cases h
  next hpath =>
  split at h
  · cases h
  split at h
  · cases h
  split at h
  · cases h
  split at h
  · cases h
  next hform =>
  cases h
  refine ⟨rfl, read_eq_ok_iff.2 ⟨by simpa using hpath, ?_, by simpa using hform⟩⟩
  rw [file?_put, if_pos rfl]

theorem read_put_eq_ok_iff (hne : Path.place other ≠ Path.place path) (new : List UInt8) :
    (t.put path new).read other = .ok bytes ↔ t.read other = .ok bytes := by
  rw [read_eq_ok_iff, read_eq_ok_iff, file?_put, if_neg hne]

theorem read_put_of_ne {other : String} (h : t.read other = .ok bytes) (hne : Path.place other ≠ Path.place path)
    (new : List UInt8) : (t.put path new).read other = .ok bytes :=
  (read_put_eq_ok_iff hne new).2 h

theorem read_remove_of_ne {other : String} (h : t.read other = .ok bytes) (hne : Path.place other ≠ Path.place path) :
    (t.remove path).read other = .ok bytes := by
  obtain ⟨hother, hfile, hform⟩ := read_eq_ok_iff.1 h
  exact read_eq_ok_iff.2 ⟨hother, by rw [file?_remove, if_neg hne, hfile], hform⟩

end FileTree

end DocumentaryCredit

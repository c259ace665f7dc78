/-
Maps of texts by their entries. An entry is in a map with one more value when it is the new one, or an old one under
another key; two maps with the same entries are equal, so that the map of a list of entries with distinct keys does
not depend on their order.
-/
import DocumentaryCredit.TextMap
import Mathlib.Data.List.Nodup
import Mathlib.Data.String.Basic

namespace DocumentaryCredit

/-- What is looked up among entries with distinct keys is the entry of its key. -/
theorem find?_eq_some_iff_of_nodup {α κ : Type} {key : α → κ} {entries : List α} (hnodup : (entries.map key).Nodup)
    {p : α → Bool} {k : κ} (hp : ∀ e ∈ entries, p e = true ↔ key e = k) {entry : α} :
    entries.find? p = some entry ↔ entry ∈ entries ∧ key entry = k := by
  constructor
  · intro hfind
    have hmem := List.mem_of_find?_eq_some hfind
    exact ⟨hmem, (hp entry hmem).1 (List.find?_some hfind)⟩
  · rintro ⟨hmem, hkey⟩
    obtain ⟨found, hfound⟩ := Option.isSome_iff_exists.1 (List.find?_isSome.2 ⟨entry, hmem, (hp entry hmem).2 hkey⟩)
    have hfoundmem := List.mem_of_find?_eq_some hfound
    have hfoundkey := (hp found hfoundmem).1 (List.find?_some hfound)
    rw [hfound, List.inj_on_of_nodup_map hnodup hfoundmem hmem (hfoundkey.trans hkey.symm)]

namespace TextMap

variable {α : Type} {m a b : TextMap α} {entry : String × α} {key : String} {value : α}

/-! ## Entries and values -/

theorem nodup_keys (m : TextMap α) : m.keys.Nodup :=
  List.pairwise_map.2 (m.ascending.imp fun h => ne_of_lt h)

theorem nodup_entries (m : TextMap α) : m.entries.Nodup := m.nodup_keys.of_map

theorem get?_eq_some_iff : m.get? key = some value ↔ (key, value) ∈ m.entries := by
  unfold get?
  simp only [Option.map_eq_some_iff, find?_eq_some_iff_of_nodup m.nodup_keys fun _ _ => beq_iff_eq]
  constructor
  · rintro ⟨e, ⟨hmem, rfl⟩, rfl⟩
    exact hmem
  · exact fun hmem => ⟨_, ⟨hmem, rfl⟩, rfl⟩

/-- What is looked up in a map by a property is the entry with the least key that has it. -/
theorem le_of_find?_entries {p : String × α → Bool} {other : String × α} (h : m.entries.find? p = some entry)
    (hother : other ∈ m.entries) (hp : p other = true) : entry.1 ≤ other.1 := by
  obtain ⟨-, front, behind, hentries, hfront⟩ := List.find?_eq_some_iff_append.1 h
  have hascending := m.ascending
  rw [hentries, List.pairwise_append, List.pairwise_cons] at hascending
  rw [hentries, List.mem_append, List.mem_cons] at hother
  rcases hother with hother | rfl | hother
  · have hnot := hfront other hother
    simp [hp] at hnot
  · exact le_refl _
  · exact (hascending.2.1.1 other hother).le

theorem mem_keys_iff : key ∈ m.keys ↔ ∃ value, m.get? key = some value := by
  simp only [get?_eq_some_iff, keys, List.mem_map, Prod.exists, exists_eq_right, exists_and_right]

/-- Maps with the same entries are equal. -/
theorem ext_entries (h : ∀ e, e ∈ a.entries ↔ e ∈ b.entries) : a = b := by
  have hperm : a.entries.Perm b.entries := (List.perm_ext_iff_of_nodup a.nodup_entries b.nodup_entries).2 h
  have heq : a.entries = b.entries :=
    hperm.eq_of_pairwise (fun _ _ _ _ hlt hlt' => absurd hlt (lt_asymm hlt')) a.ascending b.ascending
  cases a
  cases b
  cases heq
  rfl

/-- A map has as many entries as it has keys. -/
theorem size_eq_length {keys : List String} (hnodup : keys.Nodup) (h : ∀ key, key ∈ m.keys ↔ key ∈ keys) :
    m.size = keys.length := by
  have hperm : m.keys.Perm keys := (List.perm_ext_iff_of_nodup m.nodup_keys hnodup).2 h
  rw [← hperm.length_eq, TextMap.keys, List.length_map, TextMap.size]

/-! ## One more value -/

theorem mem_insertEntry_iff : ∀ {entries : List (String × α)}, entries.Pairwise (fun a b => a.1 < b.1) →
    (entry ∈ insertEntry key value entries ↔ entry = (key, value) ∨ entry.1 ≠ key ∧ entry ∈ entries)
  | [], _ => by simp [insertEntry]
  | first :: rest, h => by
    obtain ⟨hfirst, hrest⟩ := List.pairwise_cons.1 h
    -- Behind the place of the key only greater keys stand.
    have hbehind : key ≤ first.1 → entry ∈ rest → entry.1 ≠ key := fun hle he =>
      ne_of_gt (lt_of_le_of_lt hle (hfirst entry he))
    unfold insertEntry
    split
    · next hlt =>
      have hother : entry = first ∨ entry ∈ rest → entry.1 ≠ key := by
        rintro (rfl | he)
        · exact ne_of_gt hlt
        · exact hbehind hlt.le he
      rw [List.mem_cons, List.mem_cons]
      exact or_congr_right (and_iff_right_of_imp hother).symm
    split
    · next hlt =>
      have hother : entry = first → entry.1 ≠ key := fun heq => heq ▸ ne_of_lt hlt
      rw [List.mem_cons, List.mem_cons, mem_insertEntry_iff hrest, or_left_comm, and_or_left]
      exact or_congr_right (or_congr_left (and_iff_right_of_imp hother).symm)
    · next hge hle =>
      have hkey : key = first.1 := le_antisymm (not_lt.1 hle) (not_lt.1 hge)
      rw [List.mem_cons, List.mem_cons]
      refine or_congr_right ⟨fun he => ⟨hbehind hkey.le he, .inr he⟩, ?_⟩
      rintro ⟨hne, rfl | he⟩
      · exact absurd hkey.symm hne
      · exact he

theorem mem_insert_iff :
    entry ∈ (m.insert key value).entries ↔ entry = (key, value) ∨ entry.1 ≠ key ∧ entry ∈ m.entries :=
  mem_insertEntry_iff m.ascending

theorem get?_insert (m : TextMap α) (key : String) (value : α) (other : String) :
    (m.insert key value).get? other = if other = key then some value else m.get? other := by
  ext v
  rw [get?_eq_some_iff, mem_insert_iff]
  split
  · next h => simp [h, eq_comm]
  · next h => simp [h, get?_eq_some_iff]

/-- A value that stands under its key already stays. -/
theorem get?_insertIfNew (m : TextMap α) (key : String) (value : α) (other : String) :
    (m.insertIfNew key value).get? other = (m.get? other).or (if other = key then some value else none) := by
  unfold insertIfNew contains
  split
  · next hstands =>
    by_cases hother : other = key
    · subst hother
      obtain ⟨old, hold⟩ := Option.isSome_iff_exists.1 hstands
      rw [hold, Option.some_or]
    · rw [if_neg hother, Option.or_none]
  · next hnew =>
    rw [get?_insert]
    split
    · next hother =>
      subst hother
      rw [Option.not_isSome_iff_eq_none.1 hnew, Option.none_or]
    · rw [Option.or_none]

/-- One value put under several keys stands under those that had none. -/
theorem get?_foldl_insertIfNew (m : TextMap α) (keys : List String) (value : α) (other : String) :
    (keys.foldl (fun m key => m.insertIfNew key value) m).get? other =
      (m.get? other).or (if other ∈ keys then some value else none) := by
  induction keys generalizing m with
  | nil => simp
  | cons key keys ih =>
    rw [List.foldl_cons, ih, get?_insertIfNew, Option.or_assoc]
    by_cases hother : other = key <;> simp [hother]

theorem mem_keys_insert {other : String} : other ∈ (m.insert key value).keys ↔ other = key ∨ other ∈ m.keys := by
  simp only [mem_keys_iff, get?_insert]
  by_cases h : other = key <;> simp [h]

/-! ## Lists of entries -/

theorem mem_keys_foldl_insert {entries : List (String × α)} :
    key ∈ (entries.foldl (fun m e => m.insert e.1 e.2) m).keys ↔ key ∈ m.keys ∨ key ∈ entries.map (·.1) := by
  induction entries generalizing m with
  | nil => simp
  | cons first rest ih => rw [List.foldl_cons, ih, mem_keys_insert, List.map_cons, List.mem_cons, or_left_comm, or_assoc]

theorem mem_foldl_insert {entries : List (String × α)} :
    entry ∈ (entries.foldl (fun m e => m.insert e.1 e.2) m).entries → entry ∈ m.entries ∨ entry ∈ entries := by
  induction entries generalizing m with
  | nil => exact .inl
  | cons first rest ih =>
    intro h
    rcases ih h with h | h
    · rcases mem_insert_iff.1 h with rfl | ⟨-, h⟩
      · exact .inr (by simp)
      · exact .inl h
    · exact .inr (List.mem_cons_of_mem _ h)

theorem mem_foldl_insert_iff {entries : List (String × α)} (hnodup : (entries.map (·.1)).Nodup)
    (hnew : ∀ e ∈ entries, ∀ old ∈ m.entries, old.1 ≠ e.1) :
    entry ∈ (entries.foldl (fun m e => m.insert e.1 e.2) m).entries ↔ entry ∈ m.entries ∨ entry ∈ entries := by
  refine ⟨mem_foldl_insert, ?_⟩
  induction entries generalizing m with
  | nil => simp
  | cons first rest ih =>
    obtain ⟨hfirst, hrest⟩ := List.nodup_cons.1 hnodup
    intro h
    refine ih (m := m.insert first.1 first.2) hrest (fun e he old hold => ?_) ?_
    · rcases mem_insert_iff.1 hold with rfl | ⟨-, hold⟩
      · intro heq
        exact hfirst (List.mem_map.2 ⟨e, he, heq.symm⟩)
      · exact hnew e (List.mem_cons_of_mem _ he) old hold
    · rw [mem_insert_iff]
      rcases h with h | h
      · exact .inl (.inr ⟨hnew first (by simp) entry h, h⟩)
      · rcases List.mem_cons.1 h with rfl | h
        · exact .inl (.inl rfl)
        · exact .inr h

theorem mem_of_mem_ofList {entries : List (String × α)} (h : entry ∈ (ofList entries).entries) : entry ∈ entries := by
  rcases mem_foldl_insert h with h | h
  · cases h
  · exact h

/-- Entries with distinct keys are all in their map. -/
theorem mem_ofList_iff {entries : List (String × α)} (hnodup : (entries.map (·.1)).Nodup) :
    entry ∈ (ofList entries).entries ↔ entry ∈ entries := by
  unfold ofList
  rw [mem_foldl_insert_iff hnodup (by simp [empty])]
  simp [empty]

/-- Entries with distinct keys are those of their map, in some order. -/
theorem perm_ofList {entries : List (String × α)} (hnodup : (entries.map (·.1)).Nodup) :
    (ofList entries).entries.Perm entries :=
  (List.perm_ext_iff_of_nodup (nodup_entries _) hnodup.of_map).2 fun _ => mem_ofList_iff hnodup

/-- The map of distinct entries is the one that has these entries. -/
theorem ofList_eq_of_forall_mem_iff {entries : List (String × α)} (hnodup : (entries.map (·.1)).Nodup)
    (h : ∀ e, e ∈ entries ↔ e ∈ m.entries) : ofList entries = m :=
  ext_entries fun e => (mem_ofList_iff hnodup).trans (h e)

theorem ofList_entries (m : TextMap α) : ofList m.entries = m :=
  ofList_eq_of_forall_mem_iff m.nodup_keys fun _ => Iff.rfl

end TextMap

theorem TextSet.mem_ofList_iff {texts : List String} {text : String} : text ∈ (ofList texts).elements ↔ text ∈ texts := by
  unfold ofList TextMap.ofList
  rw [TextMap.mem_keys_foldl_insert]
  simp [TextMap.keys, TextMap.empty, Function.comp_def]

end DocumentaryCredit

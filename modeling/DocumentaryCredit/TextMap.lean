/-
Maps and sets of texts in ascending order. The values of a message by tag, the schemas by message type and
the raw fields of a document are all read out in the order of their keys, and two of them are equal when
they hold the same values under the same keys: the entries stand in strictly ascending order, which the type
carries as an invariant.
-/

namespace DocumentaryCredit

/-- Values by text, in ascending order of the keys. -/
structure TextMap (α : Type) where
  entries : List (String × α)
  ascending : entries.Pairwise (fun a b => a.1 < b.1)

namespace TextMap

variable {α : Type}

instance [DecidableEq α] : DecidableEq (TextMap α) := fun a b =>
  if h : a.entries = b.entries then isTrue (by cases a; cases b; cases h; rfl)
  else isFalse (fun he => h (he ▸ rfl))

/-- The map with no entries. -/
def empty : TextMap α := ⟨[], .nil⟩

/-- Puts a value under a key into a list of entries in ascending order, in place of the one that stood there. -/
def insertEntry (key : String) (value : α) : List (String × α) → List (String × α)
  | [] => [(key, value)]
  | entry :: rest =>
    if key < entry.1 then (key, value) :: entry :: rest
    else if entry.1 < key then entry :: insertEntry key value rest
    else (key, value) :: rest

theorem mem_insertEntry {key : String} {value : α} {entries : List (String × α)} {entry : String × α}
    (h : entry ∈ insertEntry key value entries) : entry = (key, value) ∨ entry ∈ entries := by
  induction entries with
  | nil => simpa [insertEntry] using h
  | cons first rest ih =>
    unfold insertEntry at h
    split at h
    · simpa using h
    · split at h
      · rcases List.mem_cons.1 h with rfl | h
        · simp
        · rcases ih h with h | h <;> simp [h]
      · rcases List.mem_cons.1 h with rfl | h <;> simp [*]

theorem insertEntry_ascending (key : String) (value : α) {entries : List (String × α)}
    (h : entries.Pairwise (fun a b => a.1 < b.1)) :
    (insertEntry key value entries).Pairwise (fun a b => a.1 < b.1) := by
  induction entries with
  | nil => simp [insertEntry]
  | cons first rest ih =>
    have hc := List.pairwise_cons.1 h
    unfold insertEntry
    split
    · next hlt =>
      refine List.pairwise_cons.2 ⟨fun e he => ?_, h⟩
      rcases List.mem_cons.1 he with rfl | he
      · exact hlt
      · exact String.lt_trans hlt (hc.1 e he)
    · split
      · next hlt =>
        refine List.pairwise_cons.2 ⟨fun e he => ?_, ih hc.2⟩
        rcases mem_insertEntry he with rfl | he
        · exact hlt
        · exact hc.1 e he
      · next hge hle =>
        have heq : key = first.1 := String.le_antisymm (String.not_lt.1 hle) (String.not_lt.1 hge)
        refine List.pairwise_cons.2 ⟨fun e he => ?_, hc.2⟩
        exact heq ▸ hc.1 e he

/-- The map with a value under a key, in place of the one that stood there. -/
def insert (m : TextMap α) (key : String) (value : α) : TextMap α :=
  ⟨insertEntry key value m.entries, insertEntry_ascending key value m.ascending⟩

/-- The value under a key. -/
def get? (m : TextMap α) (key : String) : Option α := (m.entries.find? (·.1 == key)).map (·.2)

/-- Whether there is a value under a key. -/
def contains (m : TextMap α) (key : String) : Bool := (m.get? key).isSome

/-- The map with a value under a key, unless one stands there already. -/
def insertIfNew (m : TextMap α) (key : String) (value : α) : TextMap α :=
  if m.contains key then m else m.insert key value

/-- The map of a list of entries; of several values under one key the last stands. -/
def ofList (entries : List (String × α)) : TextMap α :=
  entries.foldl (fun m entry => m.insert entry.1 entry.2) empty

/-- The keys in ascending order. -/
def keys (m : TextMap α) : List String := m.entries.map (·.1)

/-- The values in the order of their keys. -/
def values (m : TextMap α) : List α := m.entries.map (·.2)

/-- The number of entries. -/
def size (m : TextMap α) : Nat := m.entries.length

/-- The map with `f` applied to the value under a key. -/
def modify (m : TextMap α) (key : String) (f : α → α) : TextMap α :=
  match m.get? key with
  | none => m
  | some value => m.insert key (f value)

end TextMap

/-- Texts in ascending order, each once. -/
structure TextSet where
  elements : List String
  ascending : elements.Pairwise (· < ·)
deriving DecidableEq

namespace TextSet

/-- The set of a list of texts. -/
def ofList (texts : List String) : TextSet :=
  let m := TextMap.ofList (texts.map fun text => (text, ()))
  ⟨m.keys, by simpa [TextMap.keys, List.pairwise_map] using m.ascending⟩

/-- Whether a text belongs to the set. -/
def contains (s : TextSet) (text : String) : Bool := s.elements.contains text

end TextSet

end DocumentaryCredit

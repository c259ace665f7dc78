/-
Caches: values by the text they were made from. A value is made when it is first asked for and kept from then
on; an entry is never replaced, and what cannot be made leaves no entry. Two callers that both find nothing may
both make the value: `keep` decides which of the two stays.
-/
import DocumentaryCredit.TextMap

namespace DocumentaryCredit

/-- The values kept so far. -/
structure Cache (α : Type) where
  entries : TextMap α := TextMap.empty

namespace Cache

variable {α : Type}

/-- The value kept for a text. -/
def lookup (cache : Cache α) (key : String) : Option α := cache.entries.get? key

/-- Keeps a value unless another is kept already; the answer is the one that is kept. -/
def keep (cache : Cache α) (key : String) (value : α) : α × Cache α :=
  match cache.lookup key with
  | some kept => (kept, cache)
  | none => (value, ⟨cache.entries.insert key value⟩)

/-- The value of a text, made by `make` on first use. -/
def obtain {ε : Type} (cache : Cache α) (make : String → Except ε α) (key : String) : Except ε α × Cache α :=
  match cache.lookup key with
  | some found => (.ok found, cache)
  | none =>
    match make key with
    | .error e => (.error e, cache)
    | .ok value =>
      let (kept, cache) := cache.keep key value
      (.ok kept, cache)

/-- The number of values kept. -/
def size (cache : Cache α) : Nat := cache.entries.size

end Cache

end DocumentaryCredit

/-
Types whose values have names: kinds, classes and categories that tables and documents refer to by a word.
Two values never share a name, so a name is read back by looking for it.
-/

namespace DocumentaryCredit

/-- A finite type whose values are told apart by their names. -/
class Named (α : Type) where
  /-- All the values, in the order in which they are listed. -/
  all : List α
  /-- The name of a value. -/
  name : α → String

/-- The value of a name. -/
def Named.read? {α : Type} [Named α] (s : String) : Option α := (Named.all : List α).find? (Named.name · == s)

end DocumentaryCredit

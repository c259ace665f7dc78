/-
Reading the values of this library from JSON. A record is an object with a member for each of its fields, or
an array of their values in order; a name of a finite type is a text, or an object with that name alone.
A reader answers none for a value that does not fit; which part of it did not is not told.
-/
import DocumentaryCredit.Json
import DocumentaryCredit.Named
import DocumentaryCredit.Text.Ascii
import DocumentaryCredit.TextMap

namespace DocumentaryCredit.Json

/-- Reads a text. -/
def text? : Json → Option String
  | text s => some s
  | _ => none

/-- Reads a truth value. -/
def bool? : Json → Option Bool
  | bool b => some b
  | _ => none

/-- Reads a whole number from 0 to `limit`. -/
def nat? (limit : Nat) : Json → Option Nat
  | int (.ofNat n) => if n ≤ limit then some n else none
  | _ => none

/-- Reads a value that may be absent. -/
def option? {α : Type} (f : Json → Option α) : Json → Option (Option α)
  | null => some none
  | j => (f j).map some

/-- Reads a list of values. -/
def list? {α : Type} (f : Json → Option α) : Json → Option (List α)
  | array items => items.mapM f
  | _ => none

/-- Reads an object of values by name; of members of one name the last one counts. -/
def map? {α : Type} (f : Json → Option α) : Json → Option (TextMap α)
  | object members => (members.mapM fun member => (f member.2).map (Prod.mk member.1)).map TextMap.ofList
  | _ => none

/-- Reads a name of a finite type. -/
def named? {α : Type} [Named α] : Json → Option α
  | text s => Named.read? s
  | object [(s, null)] => Named.read? s
  | _ => none

/-- Writes a value of a finite type by its name. -/
def named {α : Type} [Named α] (a : α) : Json := text (Named.name a)

/-- The fields of a record that were found. -/
structure Record where
  fields : List (String × Option Json)
  /-- The record was written as an array, where no field may be left out that has no default. -/
  isArray : Bool

/-- Finds the fields of a record. `aliases` are further names of fields; a field may stand once only. Other
members are passed over, unless `strict` forbids them. -/
def recordWith? (names : List String) (aliases : List (String × String)) (strict : Bool) (j : Json) :
    Option Record :=
  match j with
  | object members =>
    let known := members.map fun member => ((aliases.find? (·.1 == member.1)).elim member.1 (·.2), member.2)
    let found (name : String) := known.filter (·.1 == name)
    if names.any (fun name => (found name).length > 1) then none
    else if strict && known.any (fun member => !names.contains member.1) then none
    else some ⟨names.map fun name => (name, (found name).head?.map (·.2)), false⟩
  | array items =>
    if items.length > names.length then none
    else some ⟨names.zip (items.map some ++ List.replicate (names.length - items.length) none), true⟩
  | _ => none

/-- Finds the fields of a record whose fields have one name each. -/
def record? (names : List String) (j : Json) : Option Record := recordWith? names [] false j

namespace Record

/-- The value found for a field. -/
def find (r : Record) (name : String) : Option Json := (r.fields.find? (·.1 == name)).bind (·.2)

/-- A field that must be there. -/
def required {α : Type} (r : Record) (name : String) (f : Json → Option α) : Option α := (r.find name).bind f

/-- A field that may be `null` or left out. -/
def optional {α : Type} (r : Record) (name : String) (f : Json → Option α) : Option (Option α) :=
  match r.find name with
  | none => if r.isArray then none else some none
  | some j => option? f j

/-- A field that has a value when it is left out. -/
def withDefault {α : Type} (r : Record) (name : String) (default : α) (f : Json → Option α) : Option α :=
  match r.find name with
  | none => some default
  | some j => f j

end Record

end DocumentaryCredit.Json

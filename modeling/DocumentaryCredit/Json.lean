/-
JSON values. Document sets, field values and settings come as JSON, and findings leave as JSON. The members of
an object are kept in the order in which they stand, and a name may stand more than once: what that means is
for the reader of the object to say.
-/

namespace DocumentaryCredit

/-- A JSON value. Numbers are exact where they are whole and fit 64 bits; of others the text is kept. -/
inductive Json where
  | null
  | bool (b : Bool)
  | int (n : Int)
  | real (written : String)
  | text (s : String)
  | array (items : List Json)
  | object (members : List (String × Json))

namespace Json

/-- A whole number without a sign. -/
def nat (n : Nat) : Json := int n

/-- An optional value, `null` when absent. -/
def option {α : Type} (f : α → Json) : Option α → Json
  | none => null
  | some a => f a

/-- The array of the values of a list. -/
def list {α : Type} (f : α → Json) (items : List α) : Json := array (items.map f)

/-- An array of texts. -/
def texts (items : List String) : Json := list text items

/-- The value of a member; of members of one name the last one counts. -/
def get? (j : Json) (name : String) : Option Json :=
  match j with
  | object members => (members.reverse.find? (·.1 == name)).map (·.2)
  | _ => none

/-! ## Writing -/

/-- The escape of a character within a JSON text. -/
def escapeChar (c : Char) : List Char :=
  let n := c.toNat
  if n = 0x22 then ['\\', c]
  else if c = '\\' then ['\\', '\\']
  else if c = '\n' then ['\\', 'n']
  else if c = '\r' then ['\\', 'r']
  else if c = '\t' then ['\\', 't']
  else if n = 0x08 then ['\\', 'b']
  else if n = 0x0C then ['\\', 'f']
  else if n < 0x20 then ['\\', 'u', '0', '0', Nat.digitChar (n / 16), Nat.digitChar (n % 16)]
  else [c]

/-- A text between quotes. -/
def quote (s : String) : String := "\"" ++ String.ofList (s.toList.flatMap escapeChar) ++ "\""

mutual

/-- The value on one line. -/
def compress : Json → String
  | null => "null"
  | bool b => if b then "true" else "false"
  | int n => toString n
  | real written => written
  | text s => quote s
  | array items => "[" ++ ",".intercalate (compressItems items) ++ "]"
  | object members => "\x7b" ++ ",".intercalate (compressMembers members) ++ "\x7d"

/-- The items of an array, each on one line. -/
def compressItems : List Json → List String
  | [] => []
  | item :: items => compress item :: compressItems items

/-- The members of an object, each on one line. -/
def compressMembers : List (String × Json) → List String
  | [] => []
  | (name, value) :: members => (quote name ++ ":" ++ compress value) :: compressMembers members

end

/-- Lines in brackets, each indented by two blanks more than the brackets. -/
def bracketed (left right indent : String) (lines : List String) : String :=
  if lines.isEmpty then left ++ right
  else
    let inner := "\n" ++ indent ++ "  "
    left ++ inner ++ ("," ++ inner).intercalate lines ++ "\n" ++ indent ++ right

mutual

/-- The value over several lines, after `indent`. -/
def prettyAt (indent : String) : Json → String
  | array items => bracketed "[" "]" indent (prettyItems (indent ++ "  ") items)
  | object members => bracketed "\x7b" "\x7d" indent (prettyMembers (indent ++ "  ") members)
  | null => "null"
  | bool b => if b then "true" else "false"
  | int n => toString n
  | real written => written
  | text s => quote s

/-- The items of an array over several lines. -/
def prettyItems (indent : String) : List Json → List String
  | [] => []
  | item :: items => prettyAt indent item :: prettyItems indent items

/-- The members of an object over several lines. -/
def prettyMembers (indent : String) : List (String × Json) → List String
  | [] => []
  | (name, value) :: members => (quote name ++ ": " ++ prettyAt indent value) :: prettyMembers indent members

end

/-- The value over several lines, each level indented by two blanks. -/
def pretty (j : Json) : String := prettyAt "" j

end Json

end DocumentaryCredit

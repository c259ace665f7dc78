/-
The statements of a TOML document: headers of tables, headers of items of arrays of tables, and keys with their
values. A value is read as the JSON value of the same shape. Values are nested at most eighty deep.
-/
import DocumentaryCredit.Toml.Quoted
import DocumentaryCredit.Toml.Scalar
import DocumentaryCredit.Toml.Tree

namespace DocumentaryCredit.Toml

/-- A statement. Keys are paths, with a name for each of their parts. -/
inductive Statement where
  | table (path : List String)
  | item (path : List String)
  | pair (path : List String) (value : Json)

/-! ## Values -/

/-- How deeply arrays and tables may be nested in a value. -/
def nestingLimit : Nat := 80

mutual

/-- The value at the start of a text within `depth` arrays and tables, and what follows it. -/
def readValue? (depth : Nat) : Nat → List Char → Option (Json × List Char)
  | 0, _ => none
  | _, [] => none
  | allowance + 1, c :: rest =>
    if c = '[' || c = '{' then
      if depth = nestingLimit then none
      else if c = '[' then (readItems? (depth + 1) allowance rest).map fun (items, rest) => (.array items, rest)
      else (readMembers? (depth + 1) allowance [] rest).map fun (members, rest) =>
        (.object (membersJson members), rest)
    else if isQuote c then (readString? (c :: rest)).map fun (s, rest) => (.text s, rest)
    else
      let (word, rest) := takeWord (c :: rest)
      (readWord? word).map fun j => (j, rest)

/-- The items of an array up to its closing bracket, and what follows it. -/
def readItems? (depth : Nat) : Nat → List Char → Option (List Json × List Char)
  | 0, _ => none
  | allowance + 1, cs =>
    match skipLines cs.length cs with
    | ']' :: rest => some ([], rest)
    | cs =>
      (readValue? depth allowance cs).bind fun (item, rest) =>
        match skipLines rest.length rest with
        | ',' :: rest => (readItems? depth allowance rest).map fun (items, rest) => (item :: items, rest)
        | ']' :: rest => some ([item], rest)
        | _ => none

/-- The members of a table in braces up to the closing one, after those read before, and what follows it. -/
def readMembers? (depth : Nat) : Nat → Members → List Char → Option (Members × List Char)
  | 0, _, _ => none
  | allowance + 1, members, cs =>
    match skipLines cs.length cs with
    | '}' :: rest => some (members, rest)
    | cs =>
      (readKey? cs.length cs).bind fun (path, rest) =>
        match rest with
        | '=' :: rest =>
          (readValue? depth allowance (skipSpace rest)).bind fun (value, rest) =>
            (addPair? path value .header members).bind fun members =>
              match skipLines rest.length rest with
              | ',' :: rest => readMembers? depth allowance members rest
              | '}' :: rest => some (members, rest)
              | _ => none
        | _ => none

end

/-! ## Statements -/

/-- The path of a header up to `closing`, and what follows it. -/
def readHeader? (closing : List Char) (cs : List Char) : Option (List String × List Char) :=
  (readKey? cs.length cs).bind fun (path, rest) =>
    if closing.isPrefixOf rest then some (path, rest.drop closing.length) else none

/-- The statement at the start of a text, and what follows it. -/
def readStatement? (cs : List Char) : Option (Statement × List Char) :=
  match cs with
  | '[' :: '[' :: rest => (readHeader? [']', ']'] rest).map fun (path, rest) => (.item path, rest)
  | '[' :: rest => (readHeader? [']'] rest).map fun (path, rest) => (.table path, rest)
  | _ =>
    (readKey? cs.length cs).bind fun (path, rest) =>
      match rest with
      | '=' :: rest => (readValue? 0 (2 * cs.length) (skipSpace rest)).map fun (value, rest) => (.pair path value, rest)
      | _ => none

/-- The statements of a text, each on a line of its own. The allowance bounds their number. -/
def readStatements? : Nat → List Char → Option (List Statement)
  | 0, cs => if cs.isEmpty then some [] else none
  | allowance + 1, cs =>
    match skipLines cs.length cs with
    | [] => some []
    | cs => do
      let (statement, rest) ← readStatement? cs
      let rest ← endLine? rest
      let statements ← readStatements? allowance rest
      return statement :: statements

end DocumentaryCredit.Toml

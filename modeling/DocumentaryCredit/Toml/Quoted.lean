/-
The words of TOML: white space, comments, strings in their four forms, and keys.
-/
import DocumentaryCredit.Text.Ascii

namespace DocumentaryCredit.Toml

/-! ## White space -/

/-- White space within a line. -/
def isSpace (c : Char) : Bool := c == ' ' || c == '\t'

/-- The text without the white space in front. -/
def skipSpace (cs : List Char) : List Char := cs.dropWhile isSpace

/-- A character that comments and strings may hold. -/
def isPlain (c : Char) : Bool := c == '\t' || (c.toNat ≥ 0x20 && c.toNat != 0x7F)

/-- What follows the line break at the start of a text. -/
def lineBreak? : List Char → Option (List Char)
  | '\n' :: rest => some rest
  | '\r' :: '\n' :: rest => some rest
  | _ => none

/-- What follows the comment at the start of a text, if there is one. -/
def skipComment : List Char → List Char
  | '#' :: rest => rest.dropWhile isPlain
  | cs => cs

/-- The text without the white space, comments and line breaks in front. The allowance bounds their number. -/
def skipLines : Nat → List Char → List Char
  | 0, cs => cs
  | allowance + 1, cs =>
    let rest := skipComment (skipSpace cs)
    match lineBreak? rest with
    | some rest => skipLines allowance rest
    | none => rest

/-- What follows the end of a line: white space, perhaps a comment, and a line break or the end of the text. -/
def endLine? (cs : List Char) : Option (List Char) :=
  match skipComment (skipSpace cs) with
  | [] => some []
  | rest => lineBreak? rest

/-! ## Strings -/

/-- The number of digits of an escape that spells a code point. -/
def escapeWidth? (c : Char) : Option Nat :=
  match c with
  | 'x' => some 2
  | 'u' => some 4
  | 'U' => some 8
  | _ => none

/-- The character of an escape, with the number of characters after the backslash. -/
def readEscape? : List Char → Option (Char × Nat)
  | 'e' :: _ => some (Char.ofNat 0x1B, 1)
  | 'n' :: _ => some ('\n', 1)
  | 't' :: _ => some ('\t', 1)
  | 'r' :: _ => some ('\r', 1)
  | 'b' :: _ => some (Char.ofNat 0x08, 1)
  | 'f' :: _ => some (Char.ofNat 0x0C, 1)
  | c :: rest =>
    if c.toNat = 0x22 || c = '\\' then some (c, 1)
    else do
      let width ← escapeWidth? c
      let n ← if rest.length < width then none else Text.hexNumber? (rest.take width)
      let escaped ← Text.charOfCode? n
      return (escaped, width + 1)
  | [] => none

/-- The characters of a string up to its closing quote, and what follows the quote. -/
def readBasic? : List Char → Option (List Char × List Char)
  | [] => none
  | c :: rest =>
    if c.toNat = 0x22 then some ([], rest)
    else if !isPlain c then none
    else if c = '\\' then
      (readEscape? rest).bind fun (escaped, width) =>
        (readBasic? (rest.drop width)).map fun (cs, rest) => (escaped :: cs, rest)
    else (readBasic? rest).map fun (cs, rest) => (c :: cs, rest)
termination_by cs => cs.length
decreasing_by all_goals simp only [List.length_drop, List.length_cons]; omega

/-- The characters of a string without escapes up to its closing quote, and what follows the quote. -/
def readLiteral? : List Char → Option (List Char × List Char)
  | [] => none
  | c :: rest =>
    if c.toNat = 0x27 then some ([], rest)
    else if !isPlain c then none
    else (readLiteral? rest).map fun (cs, rest) => (c :: cs, rest)

/-- The number of quotes at the start of a text. -/
def countQuotes (quote : Nat) (cs : List Char) : Nat := (cs.takeWhile (·.toNat == quote)).length

/-- The text without the white space and line breaks in front. -/
def skipBlankLines : List Char → List Char
  | '\r' :: '\n' :: rest => skipBlankLines rest
  | c :: rest => if isSpace c || c = '\n' then skipBlankLines rest else c :: rest
  | [] => []

theorem length_skipBlankLines_le (cs : List Char) : (skipBlankLines cs).length ≤ cs.length := by
  fun_induction skipBlankLines cs <;> simp_all <;> omega

/-- The characters of a string of several lines up to its three closing quotes, and what follows them. Up to two
more quotes before the closing ones belong to the string. A backslash at the end of a line takes away the white
space and line breaks up to the next character; other line breaks are kept as they are written. -/
def readLong? (quote : Nat) : List Char → Option (List Char × List Char)
  | [] => none
  | c :: rest =>
    let quotes := countQuotes quote (c :: rest)
    if quotes ≥ 3 then
      let kept := min quotes 5 - 3
      some (List.replicate kept (Char.ofNat quote), rest.drop (kept + 2))
    else if c = '\\' && quote = 0x22 then
      if (lineBreak? (skipSpace rest)).isSome then readLong? quote (skipBlankLines rest)
      else (readEscape? rest).bind fun (escaped, width) =>
        (readLong? quote (rest.drop width)).map fun (cs, rest) => (escaped :: cs, rest)
    else if isPlain c || (lineBreak? (c :: rest)).isSome then
      (readLong? quote rest).map fun (cs, rest) => (c :: cs, rest)
    else none
termination_by cs => cs.length
decreasing_by
  · have := length_skipBlankLines_le rest
    simp only [List.length_cons]; omega
  all_goals simp only [List.length_drop, List.length_cons]; omega

/-- The string at the start of a text, and what follows it. -/
def readString? (cs : List Char) : Option (String × List Char) :=
  match cs with
  | [] => none
  | c :: rest =>
    let quote := c.toNat
    let content :=
      if countQuotes quote cs ≥ 3 then
        let body := cs.drop 3
        readLong? quote ((lineBreak? body).getD body)
      else if quote = 0x22 then readBasic? rest
      else readLiteral? rest
    content.map fun (cs, rest) => (String.ofList cs, rest)

/-- Whether a character opens a string. -/
def isQuote (c : Char) : Bool := c.toNat == 0x22 || c.toNat == 0x27

/-! ## Keys -/

/-- The characters of a key without quotes. -/
def isKeyChar (c : Char) : Bool := Text.isLetter c || Text.isDigit c || c == '_' || c == '-'

/-- One part of a key, and what follows it. -/
def readName? (cs : List Char) : Option (String × List Char) :=
  if cs.head?.any isQuote then
    (if countQuotes 0x22 cs ≥ 3 || countQuotes 0x27 cs ≥ 3 then none else readString? cs)
  else
    let name := cs.takeWhile isKeyChar
    if name.isEmpty then none else some (String.ofList name, cs.drop name.length)

/-- The parts of a key, with points between them, and what follows the key. -/
def readKey? : Nat → List Char → Option (List String × List Char)
  | 0, _ => none
  | allowance + 1, cs =>
    (readName? (skipSpace cs)).bind fun (name, rest) =>
      match skipSpace rest with
      | '.' :: rest => (readKey? allowance rest).map fun (names, rest) => (name :: names, rest)
      | rest => some ([name], rest)

end DocumentaryCredit.Toml

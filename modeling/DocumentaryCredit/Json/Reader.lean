/-
Reading JSON texts. The text is first cut into tokens; the tokens are then read one after another onto a stack
of the arrays and objects that are still open, so that the reading goes through the tokens once and is as deep
as the values are nested.
-/
import DocumentaryCredit.Json
import DocumentaryCredit.Text.Ascii

namespace DocumentaryCredit.Json

-- Powers of whole numbers are those of the core library, whatever else is in scope.
attribute [local instance (high)] instPowNat

/-! ## Tokens -/

/-- A token of a JSON text. -/
inductive Token where
  | openArray
  | closeArray
  | openObject
  | closeObject
  | colon
  | comma
  | text (s : String)
  /-- A value without parts other than a text. -/
  | simple (j : Json)

/-- The number of four hexadecimal digits at the start of a text. -/
def fourHex? : List Char → Option Nat
  | a :: b :: c :: d :: _ => Text.hexNumber? [a, b, c, d]
  | _ => none

/-- The character of an escape, with the number of characters after the backslash. A character beyond the
first 65536 is written as a pair of escapes, and half a pair is no character. -/
def readEscape? : List Char → Option (Char × Nat)
  | 'u' :: rest =>
    (fourHex? rest).bind fun high =>
      if 0xD800 ≤ high && high < 0xDC00 then
        match rest.drop 4 with
        | '\\' :: 'u' :: rest =>
          (fourHex? rest).bind fun low =>
            if 0xDC00 ≤ low && low < 0xE000 then
              some (Char.ofNat (0x10000 + (high - 0xD800) * 0x400 + (low - 0xDC00)), 11)
            else none
        | _ => none
      else if 0xDC00 ≤ high && high < 0xE000 then none
      else some (Char.ofNat high, 5)
  | 'n' :: _ => some ('\n', 1)
  | 't' :: _ => some ('\t', 1)
  | 'r' :: _ => some ('\r', 1)
  | 'b' :: _ => some (Char.ofNat 0x08, 1)
  | 'f' :: _ => some (Char.ofNat 0x0C, 1)
  | c :: _ => if c.toNat = 0x22 || c = '\\' || c = '/' then some (c, 1) else none
  | [] => none

/-- The characters of a text up to its closing quote, and what follows the quote. -/
def readText? : List Char → Option (List Char × List Char)
  | [] => none
  | c :: rest =>
    if c.toNat = 0x22 then some ([], rest)
    else if c.toNat < 0x20 then none
    else if c = '\\' then
      (readEscape? rest).bind fun (escaped, width) =>
        (readText? (rest.drop width)).map fun (cs, rest) => (escaped :: cs, rest)
    else (readText? rest).map fun (cs, rest) => (c :: cs, rest)
termination_by cs => cs.length
decreasing_by all_goals simp only [List.length_drop, List.length_cons]; omega

/-- A whole number when it fits 64 bits, with or without a sign. -/
def wholeNumber (negative : Bool) (digits : List Char) : Json :=
  let n := Text.digitsValue digits
  let text := String.ofList (if negative then '-' :: digits else digits)
  if negative then (if n = 0 || n > 2 ^ (63 : Nat) then real text else int (-(n : Int)))
  else if n ≤ Text.maxNat64 then int n
  else real text

/-- The number at the start of a text, and the number of its characters. -/
def readNumber? (cs : List Char) : Option (Json × Nat) :=
  let negative := cs.head? = some '-'
  let body := if negative then cs.drop 1 else cs
  let digits := body.takeWhile Text.isDigit
  if digits.isEmpty || (digits.length > 1 && digits.head? = some '0') then none
  else
    let rest := body.drop digits.length
    let fraction := match rest with
      | '.' :: more => '.' :: more.takeWhile Text.isDigit
      | _ => []
    let rest := rest.drop fraction.length
    let exponent := match rest with
      | e :: more =>
        if e = 'e' || e = 'E' then
          let sign := (more.take 1).filter fun c => c = '+' || c = '-'
          e :: sign ++ (more.drop sign.length).takeWhile Text.isDigit
        else []
      | [] => []
    let lacksDigits (part : List Char) := part.getLast?.any fun c => !Text.isDigit c
    if lacksDigits fraction || lacksDigits exponent then none
    else
      let width := cs.length - (rest.drop exponent.length).length
      if fraction.isEmpty && exponent.isEmpty then some (wholeNumber negative digits, width)
      else some (real (String.ofList (cs.take width)), width)

/-- White space between tokens. -/
def isSpace (c : Char) : Bool := c = ' ' || c = '\n' || c = '\t' || c = '\r'

/-- The token at the start of a text, and what follows it. -/
def readToken? (c : Char) (rest : List Char) : Option (Token × List Char) :=
  let word (w : String) (j : Json) := if w.toList.isPrefixOf (c :: rest) then some (Token.simple j, rest.drop (w.length - 1)) else none
  match c with
  | '[' => some (.openArray, rest)
  | ']' => some (.closeArray, rest)
  | '{' => some (.openObject, rest)
  | '}' => some (.closeObject, rest)
  | ':' => some (.colon, rest)
  | ',' => some (.comma, rest)
  | 'n' => word "null" .null
  | 't' => word "true" (.bool true)
  | 'f' => word "false" (.bool false)
  | c =>
    if c.toNat = 0x22 then (readText? rest).map fun (cs, rest) => (.text (String.ofList cs), rest)
    else (readNumber? (c :: rest)).map fun (j, width) => (.simple j, rest.drop (width - 1))

/-- The tokens of a text. The allowance bounds their number; the length of the text is enough. -/
def tokens? (cs : List Char) : Nat → Option (List Token)
  | 0 => if cs.all isSpace then some [] else none
  | allowance + 1 =>
    match cs.dropWhile isSpace with
    | [] => some []
    | c :: rest =>
      (readToken? c rest).bind fun (token, rest) => (tokens? rest allowance).map (token :: ·)

/-! ## Values -/

/-- An array or object that is still open, with its parts in reverse order. -/
inductive Frame where
  | array (items : List Json)
  | object (members : List (String × Json)) (name : Option String)

/-- What may follow. -/
inductive Awaited where
  /-- A value. -/
  | value
  /-- The first item of an array, or its end. -/
  | itemOrEnd
  /-- The first name of an object, or its end. -/
  | nameOrEnd
  /-- A further name of an object. -/
  | name
  /-- The colon after a name. -/
  | colon
  /-- A comma, or the end of what is open. -/
  | commaOrEnd
deriving DecidableEq

/-- A reading that has got to some token. -/
structure Reading where
  awaited : Awaited := .value
  frames : List Frame := []
  /-- The value that has been read, once no frame is open. -/
  result : Option Json := none

/-- How many arrays and objects may be open within each other. -/
def depthLimit : Nat := 127

namespace Reading

/-- Puts a finished value where it belongs. -/
def place (frames : List Frame) (j : Json) : Option Reading :=
  match frames with
  | [] => some ⟨.commaOrEnd, [], some j⟩
  | .array items :: rest => some ⟨.commaOrEnd, .array (j :: items) :: rest, none⟩
  | .object members (some name) :: rest => some ⟨.commaOrEnd, .object ((name, j) :: members) none :: rest, none⟩
  | .object _ none :: _ => none

/-- Closes the innermost open array or object. -/
def close (frames : List Frame) (isArray : Bool) : Option Reading :=
  match frames, isArray with
  | .array items :: rest, true => place rest (.array items.reverse)
  | .object members _ :: rest, false => place rest (.object members.reverse)
  | _, _ => none

/-- Reads one token. -/
def step (r : Reading) (token : Token) : Option Reading :=
  let takesValue := r.awaited = .value || r.awaited = .itemOrEnd
  let takesName := r.awaited = .name || r.awaited = .nameOrEnd
  match token with
  | .openArray =>
    if takesValue && r.frames.length < depthLimit then some ⟨.itemOrEnd, .array [] :: r.frames, none⟩ else none
  | .openObject =>
    if takesValue && r.frames.length < depthLimit then some ⟨.nameOrEnd, .object [] none :: r.frames, none⟩ else none
  | .closeArray => if r.awaited = .itemOrEnd || r.awaited = .commaOrEnd then close r.frames true else none
  | .closeObject => if r.awaited = .nameOrEnd || r.awaited = .commaOrEnd then close r.frames false else none
  | .simple j => if takesValue then place r.frames j else none
  | .text s =>
    if takesValue then place r.frames (.text s)
    else if takesName then
      match r.frames with
      | .object members none :: rest => some ⟨.colon, .object members (some s) :: rest, none⟩
      | _ => none
    else none
  | .colon => if r.awaited = .colon then some ⟨.value, r.frames, none⟩ else none
  | .comma =>
    if r.awaited ≠ .commaOrEnd then none
    else match r.frames with
      | .array _ :: _ => some ⟨.value, r.frames, none⟩
      | .object _ _ :: _ => some ⟨.name, r.frames, none⟩
      | [] => none

end Reading

/-- Reads a JSON text; nothing but white space may follow the value. -/
def read? (s : String) : Option Json := do
  let tokens ← tokens? s.toList s.length
  let reading ← tokens.foldlM Reading.step {}
  reading.result

end DocumentaryCredit.Json

/-
The values of TOML that are written as single words: truth values, numbers, dates and times. Whole numbers and
truth values are read as they are; of a number with a fraction, a date or a time only its text is kept.
-/
import DocumentaryCredit.Calendar
import DocumentaryCredit.Json
import DocumentaryCredit.Text.Blank

namespace DocumentaryCredit.Toml

-- Powers of whole numbers are those of the core library, whatever else is in scope.
attribute [local instance (high)] instPowNat

/-! ## Whole numbers -/

/-- Digits of a base with single underscores between them, as a number. -/
def readDigits? (base : Nat) (cs : List Char) : Option Nat :=
  let parts := Text.splitWhere (· == '_') cs
  let value (c : Char) := (Text.hexValue? c).filter (· < base)
  if parts.any (·.isEmpty) then none
  else parts.flatten.foldlM (fun n c => (value c).map (base * n + ·)) 0

/-- The word without its sign. -/
def withoutSign (word : List Char) : List Char :=
  if word.head?.any (fun c => c == '-' || c == '+') then word.drop 1 else word

/-- Digits without a zero in front of others. -/
def readDecimal? (digits : List Char) : Option Nat :=
  if digits.length > 1 && digits.head? = some '0' then none else readDigits? 10 digits

/-- A whole number with its sign. Numbers of up to 128 bits can be told apart from other values. -/
def signed? (negative : Bool) (n : Nat) : Option Json :=
  if negative then (if n ≤ 2 ^ (127 : Nat) then some (.int (-(n : Int))) else none)
  else if n < 2 ^ (128 : Nat) then some (.int n)
  else none

/-- The whole number that a word spells. -/
def readInteger? (word : List Char) : Option Json :=
  match word with
  | '0' :: 'x' :: digits => (readDigits? 16 digits).bind (signed? false)
  | '0' :: 'o' :: digits => (readDigits? 8 digits).bind (signed? false)
  | '0' :: 'b' :: digits => (readDigits? 2 digits).bind (signed? false)
  | _ => (readDecimal? (withoutSign word)).bind (signed? (word.head? = some '-'))

/-! ## Numbers with a fraction -/

/-- Whether a text is an exponent. -/
def isExponent : List Char → Bool
  | c :: rest => (c == 'e' || c == 'E') && (readDigits? 10 (withoutSign rest)).isSome
  | [] => false

/-- Whether a word spells a number with a fraction or an exponent, infinity, or no number. -/
def isFraction (word : List Char) : Bool :=
  let isDigitPart (c : Char) : Bool := Text.isDigit c || c == '_'
  let body := withoutSign word
  let whole := body.takeWhile isDigitPart
  body == "inf".toList || body == "nan".toList ||
    ((readDecimal? whole).isSome &&
      match body.drop whole.length with
      | '.' :: rest =>
        let fraction := rest.takeWhile isDigitPart
        let rest := rest.drop fraction.length
        (readDigits? 10 fraction).isSome && (rest.isEmpty || isExponent rest)
      | rest => isExponent rest)

/-! ## Dates and times -/

/-- The number of two digits at the start of a text, at most `limit`, and what follows it. -/
def readTwo? (limit : Nat) : List Char → Option (Nat × List Char)
  | a :: b :: rest =>
    let n := Text.digitsValue [a, b]
    if Text.isDigit a && Text.isDigit b && n ≤ limit then some (n, rest) else none
  | _ => none

/-- What follows a date at the start of a text. -/
def afterDate? (cs : List Char) : Option (List Char) :=
  match cs with
  | y₁ :: y₂ :: y₃ :: y₄ :: '-' :: m₁ :: m₂ :: '-' :: d₁ :: d₂ :: rest =>
    (Date.ofDigits? [y₁, y₂, y₃, y₄, m₁, m₂, d₁, d₂]).map fun _ => rest
  | _ => none

/-- What follows the seconds that a time may go on with. -/
def afterSeconds? (cs : List Char) : Option (List Char) :=
  match cs with
  | ':' :: rest => do
    let (_, rest) ← readTwo? 60 rest
    match rest with
    | '.' :: rest =>
      let digits := rest.takeWhile Text.isDigit
      if digits.isEmpty then none else some (rest.drop digits.length)
    | rest => some rest
  | cs => some cs

/-- What follows an hour and a minute at the start of a text. -/
def afterMinutes? (cs : List Char) : Option (List Char) := do
  let (_, rest) ← readTwo? 23 cs
  match rest with
  | ':' :: rest => (readTwo? 59 rest).map (·.2)
  | _ => none

/-- Whether a text is the distance of a time from universal time. -/
def isOffset (cs : List Char) : Bool :=
  match cs with
  | [c] => c == 'Z' || c == 'z'
  | c :: rest => (c == '+' || c == '-') && afterMinutes? rest == some []
  | [] => false

/-- Whether a word spells a date, a time, or both. -/
def isMoment (word : List Char) : Bool :=
  let afterTime (cs : List Char) : Option (List Char) := (afterMinutes? cs).bind afterSeconds?
  match afterDate? word with
  | some [] => true
  | some (c :: time) =>
    (c == 'T' || c == 't' || c == ' ') && (afterTime time).any fun rest => rest.isEmpty || isOffset rest
  | none => afterTime word == some []

/-! ## Words -/

/-- The value that a word spells. -/
def readWord? (word : List Char) : Option Json :=
  if word == "true".toList then some (.bool true)
  else if word == "false".toList then some (.bool false)
  else (readInteger? word).orElse fun _ =>
    if isFraction word || isMoment word then some (.real (String.ofList word)) else none

/-- The characters of words. -/
def isWordChar (c : Char) : Bool :=
  Text.isLetter c || Text.isDigit c || c == '_' || c == '-' || c == '+' || c == '.' || c == ':'

/-- The word at the start of a text, and what follows it. One blank may stand between a date and a time. -/
def takeWord (cs : List Char) : List Char × List Char :=
  let word := cs.takeWhile isWordChar
  let rest := cs.drop word.length
  match rest with
  | ' ' :: c :: more =>
    if afterDate? word == some [] && Text.isDigit c then
      let time := (c :: more).takeWhile isWordChar
      (word ++ ' ' :: time, (c :: more).drop time.length)
    else (word, rest)
  | _ => (word, rest)

end DocumentaryCredit.Toml

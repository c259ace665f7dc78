/-
The character sets of field formats. A set says which characters it admits and, for the decimal and date
sets, which runs of them are well formed. No set admits a character outside printable ASCII.
-/
import DocumentaryCredit.Calendar
import DocumentaryCredit.Named

namespace DocumentaryCredit

/-- The set of characters that a component of a format admits. -/
inductive Charset where
  /-- Digits. -/
  | numeric
  /-- Capital letters. -/
  | alpha
  /-- Capital letters and digits. -/
  | alphanumeric
  /-- Digits with exactly one comma as the decimal mark. -/
  | decimal
  /-- The digits of a calendar date. -/
  | date
  /-- The X set: letters, digits, blanks and the punctuation of telex. -/
  | freeText
  /-- The Z set: the X set and a few more symbols. -/
  | extendedText
deriving DecidableEq

namespace Charset

/-- The letter that stands for the set in a specification; the date set has none and is written out. -/
def code : Charset → String
  | numeric => "n"
  | alpha => "a"
  | alphanumeric => "c"
  | decimal => "d"
  | date => "date"
  | freeText => "x"
  | extendedText => "z"

/-- The set that a letter stands for. -/
def ofCode? : Char → Option Charset
  | 'n' => some numeric
  | 'a' => some alpha
  | 'c' => some alphanumeric
  | 'd' => some decimal
  | 'x' => some freeText
  | 'z' => some extendedText
  | _ => none

/-- The name of the set in the explanation of a mismatch. -/
def toText : Charset → String
  | numeric => "numeric"
  | alpha => "alpha"
  | alphanumeric => "alphanumeric"
  | decimal => "decimal"
  | date => "date"
  | freeText => "free-text"
  | extendedText => "extended-text"

instance : ToString Charset := ⟨toText⟩

instance : Named Charset where
  all := [numeric, alpha, alphanumeric, decimal, date, freeText, extendedText]
  name
    | freeText => "free_text"
    | extendedText => "extended_text"
    | set => set.toText

/-- Whether the set is one of the two for running text. -/
def isText : Charset → Bool
  | freeText | extendedText => true
  | _ => false

/-- The marks of the X set. -/
def textMarks : List Char := ['/', '-', '?', ':', '(', ')', '.', ',', '\'', '+', ' ']

/-- The marks that the Z set adds. -/
def extendedMarks : List Char := ['=', '!', '"', '%', '&', '*', '<', '>', ';', '{', '@', '#', '_']

/-- Whether the set admits a character. -/
def admits : Charset → Char → Bool
  | numeric, c | date, c => Text.isDigit c
  | alpha, c => Text.isUpper c
  | alphanumeric, c => Text.isUpper c || Text.isDigit c
  | decimal, c => Text.isDigit c || c == ','
  | freeText, c => Text.isLetter c || Text.isDigit c || textMarks.contains c
  | extendedText, c => Text.isLetter c || Text.isDigit c || textMarks.contains c || extendedMarks.contains c

/-- A decimal as messages write it: exactly one comma, and a digit at the start. -/
def isDecimal (run : List Char) : Bool :=
  run.count ',' == 1 && match run with
    | c :: _ => Text.isDigit c
    | [] => false

/-- A date of six or eight digits that names a day of the calendar. -/
def isDate (run : List Char) : Bool := (Date.ofDigits? run).isSome

/-- Whether a run of characters is well formed as a whole. -/
def admitsRun : Charset → List Char → Bool
  | decimal, run => isDecimal run
  | date, run => isDate run
  | _, _ => true

/-- Whether the set asks more of a run than that it admits every character. -/
def constrainsRuns : Charset → Bool
  | decimal | date => true
  | _ => false

theorem admitsRun_of_not_constrainsRuns {set : Charset} (h : set.constrainsRuns = false) (run : List Char) :
    set.admitsRun run = true := by
  cases set <;> first | rfl | cases h

end Charset

end DocumentaryCredit

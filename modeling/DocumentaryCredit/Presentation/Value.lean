/-
What the raw values of trade documents mean: amounts with or without a currency, numbers with either decimal
mark, dates in the usual layouts, counted quantities, tolerances and running text.
-/
import DocumentaryCredit.Calendar.Layout
import DocumentaryCredit.Decimal
import DocumentaryCredit.Text.Alphanumeric
import DocumentaryCredit.Text.Uppercase

namespace DocumentaryCredit

open Text

/-! ## Numbers -/

/-- The marks that separate the groups and the fraction of a number. -/
def isMark (c : Char) : Bool := c == ',' || c == '.'

/-- The characters of a number. -/
def isNumberChar (c : Char) : Bool := isDigit c || isMark c

/-- A mark that stands alone is the decimal mark, unless exactly three digits follow it. -/
def loneMark? (cs : List Char) (mark : Char) : Option Char :=
  if (cs.dropWhile (· != mark)).length = 4 then none else some mark

/-- The decimal mark of a number. Of both marks the last one is; one mark several times over separates
thousands. -/
def decimalMark? (cs : List Char) : Option Char :=
  let commas := cs.count ','
  let points := cs.count '.'
  if commas = 0 && points = 0 then none
  else if points = 0 then (if commas > 1 then none else loneMark? cs ',')
  else if commas = 0 then (if points > 1 then none else loneMark? cs '.')
  else cs.reverse.find? isMark

/-- The number with a point for its decimal mark and no other marks; a point at the end is left out. -/
def plainNumber (cs : List Char) : List Char :=
  let mark := decimalMark? cs
  let plain := cs.filterMap fun c => if !isMark c then some c else if mark = some c then some '.' else none
  if plain.getLast? = some '.' then plain.dropLast else plain

/-- Reads digits with marks between them, the first character being a digit. -/
def readDecimal? (cs : List Char) : Option Decimal :=
  if cs.head?.any isDigit && cs.all isNumberChar then Decimal.read? (plainNumber cs) else none

/-- Reads a number with either decimal mark. -/
def parseNumber? (s : String) : Option Decimal := readDecimal? s.toList

/-! ## Amounts -/

/-- An amount of money. -/
structure Amount where
  currency : Option String
  value : Decimal
deriving DecidableEq

/-- The currency, if it is known, and the number. -/
def Amount.toText (a : Amount) : String :=
  match a.currency with
  | some currency => currency ++ " " ++ a.value.toText
  | none => a.value.toText

/-- The signs of currencies and the codes that they stand for. -/
def currencySigns : List (Char × String) := [('$', "USD"), ('€', "EUR"), ('£', "GBP"), ('¥', "JPY")]

/-- The code of a currency: three letters, in capitals. -/
def currencyCode? (cs : List Char) : Option String :=
  if cs.length = 3 && cs.all isLetter then some (String.ofList (cs.map Char.toUpper)) else none

/-- Splits the currency off an amount: a sign in front, or a code in front or behind. -/
def splitCurrency (cs : List Char) : Option String × List Char :=
  match cs.head?.bind fun c => currencySigns.find? (·.1 == c) with
  | some (_, code) => (some code, cs.drop 1)
  | none =>
    if cs.length ≤ 3 then (none, cs)
    else match currencyCode? (cs.take 3) with
      | some code => (some code, cs.drop 3)
      | none =>
        match currencyCode? (cs.drop (cs.length - 3)) with
        | some code => (some code, cs.take (cs.length - 3))
        | none => (none, cs)

/-- Reads an amount, whatever white space is in it. -/
def parseAmount? (s : String) : Option Amount :=
  let (currency, number) := splitCurrency (s.toList.filter (!isBlankChar ·))
  (readDecimal? number).map (Amount.mk currency)

/-! ## Tolerances -/

/-- How far, in hundredths, an amount may go above and below the one stated. -/
structure Tolerance where
  plus : Decimal
  minus : Decimal
deriving DecidableEq

/-- The greatest amount that a tolerance permits, if it fits. -/
def Tolerance.ceiling? (t : Tolerance) (base : Decimal) : Option Decimal := do
  let product ← base.mul? t.plus
  let margin ← product.hundredth?
  base.add? margin

/-- Reads a percentage of one or two digits. -/
def readPercentage? (cs : List Char) : Option Decimal :=
  if cs.isEmpty || cs.length > 2 || !cs.all isDigit then none else Decimal.ofNat? (digitsValue cs)

/-- Reads a tolerance: two percentages with a slash between them. -/
def parseTolerance? (s : String) : Option Tolerance :=
  let cs := (trim s).toList
  let plus := cs.takeWhile (· != '/')
  match cs.drop plus.length with
  | [] => none
  | _ :: minus => do return ⟨← readPercentage? plus, ← readPercentage? minus⟩

/-! ## Dates -/

/-- Reads the date on the first line of a text: six or eight digits in front, whatever follows them, or one of
the layouts of trade documents. -/
def parseDate? (s : String) : Option Date :=
  let line := trimChars isBlankChar (s.toList.takeWhile (· != '\n'))
  let digits := line.takeWhile isDigit
  if digits.length = 6 || digits.length = 8 then Date.ofDigits? digits
  else Layout.onDocuments.findSome? fun layout => layout.read? (String.ofList line)

/-! ## Text -/

/-- Text in capitals with single blanks between its words; without punctuation when asked. -/
def normalizeText (s : String) (stripPunctuation : Bool) : String :=
  let capitals := upper s
  singleSpaced (if stripPunctuation then
    String.ofList (capitals.toList.map fun c => if isAlphanumeric c || isBlankChar c then c else ' ')
  else capitals)

/-- The line of a party that has its name: the first one that is not blank and is no account line. -/
def partyName (s : String) : String :=
  (((lines s).map trim).find? fun line => !line.isEmpty && line.toList.head? != some '/').getD ""

/-- A counted quantity. -/
structure Quantity where
  value : Decimal
  unit : String
deriving DecidableEq

/-- Reads a number and the unit behind it. -/
def parseQuantity? (s : String) : Option Quantity :=
  let cs := (trim s).toList
  let number := cs.takeWhile isNumberChar
  (readDecimal? number).map fun value =>
    ⟨value, normalizeText (String.ofList (cs.drop number.length)) true⟩

/-- The numbers that a text mentions. -/
def numbersIn (s : String) : List Decimal :=
  ((splitWhere (!isNumberChar ·) s.toList).map (trimChars isMark)).filterMap readDecimal?

end DocumentaryCredit

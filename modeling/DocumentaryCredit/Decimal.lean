/-
Exact decimal numbers of bounded size: a whole number below 2^96 and the number of its digits, at most 28,
that stand after the decimal point. Amounts, quantities and percentages are such numbers; the trailing zeros a
number was written with are kept, and two numbers are compared by value.

A result that needs more digits than fit loses its last digits by rounding (`ofDigits?`), and does not exist
when the digits before the point alone do not fit.
-/
import DocumentaryCredit.Text.Ascii

namespace DocumentaryCredit

-- Powers of whole numbers are those of the core library, whatever else is in scope.
attribute [local instance (high)] instPowNat

/-- The number `mantissa / 10 ^ scale`. -/
structure Decimal where
  mantissa : Nat
  scale : Nat
  mantissa_lt : mantissa < 2 ^ (96 : Nat)
  scale_le : scale ≤ 28
deriving DecidableEq

namespace Decimal

/-- The number of a mantissa and a scale that fit. -/
def make? (mantissa scale : Nat) : Option Decimal :=
  if h : mantissa < 2 ^ (96 : Nat) ∧ scale ≤ 28 then some ⟨mantissa, scale, h.1, h.2⟩ else none

/-! ## Rounding to what fits -/

/-- `n / 10 ^ k` to the nearest whole number, a half going to the even neighbour. -/
def roundHalfEven (n k : Nat) : Nat :=
  let half := 2 * (n % 10 ^ k)
  let down := n / 10 ^ k
  if half > 10 ^ k || (half == 10 ^ k && down % 2 == 1) then down + 1 else down

/-- The least number of digits to drop from `n` so that what is left stays below 2^96. -/
def excessDigits (n : Nat) : Nat :=
  if n < 2 ^ (96 : Nat) then 0 else excessDigits (n / 10) + 1
termination_by n
decreasing_by omega

/-- The number `n / 10 ^ scale` with as many digits as fit: it drops the digits that do not, rounding half to
even, and one more when the rounding itself reaches 2^96. -/
def ofDigits? (n scale : Nat) : Option Decimal :=
  let dropped := max (excessDigits n) (scale - 28)
  let rounded := roundHalfEven n dropped
  if scale < dropped then none
  else if rounded < 2 ^ (96 : Nat) then make? rounded (scale - dropped)
  else if scale = dropped then none
  else make? (roundHalfEven rounded 1) (scale - dropped - 1)

/-! ## Arithmetic and order -/

/-- The whole number `n`, if it fits. -/
def ofNat? (n : Nat) : Option Decimal := make? n 0

/-- The sum of two numbers, if it fits. -/
def add? (a b : Decimal) : Option Decimal :=
  let scale := max a.scale b.scale
  ofDigits? (a.mantissa * 10 ^ (scale - a.scale) + b.mantissa * 10 ^ (scale - b.scale)) scale

/-- The product of two numbers, if it fits. -/
def mul? (a b : Decimal) : Option Decimal := ofDigits? (a.mantissa * b.mantissa) (a.scale + b.scale)

/-- The hundredth part of a number. -/
def hundredth? (a : Decimal) : Option Decimal := ofDigits? a.mantissa (a.scale + 2)

/-- `a` is greater than `b`, whatever the scales they are written with. -/
def exceeds (a b : Decimal) : Bool := b.mantissa * 10 ^ a.scale < a.mantissa * 10 ^ b.scale

/-- `a` and `b` are the same number, whatever the scales they are written with. -/
def sameValue (a b : Decimal) : Bool := a.mantissa * 10 ^ b.scale == b.mantissa * 10 ^ a.scale

/-! ## Reading and writing -/

/-- Rounds a mantissa by the digit that follows it, a five going up. When that reaches 2^96, the last digit
of the mantissa is rounded away as well, which needs a digit after the point. -/
def roundBy (mantissa scale next : Nat) : Option (Nat × Nat) :=
  if next < 5 then some (mantissa, scale)
  else if mantissa + 1 < 2 ^ (96 : Nat) then some (mantissa + 1, scale)
  else if scale = 0 then none
  else some ((mantissa + 5) / 10, scale - 1)

/-- Reads digits with at most one point after the digits already read. Where the digits after the point stop
fitting, one more is read to round by, and what follows is not looked at. -/
def readDigits (mantissa scale : Nat) (point : Bool) : List Char → Option (Nat × Nat)
  | [] => some (mantissa, scale)
  | c :: rest =>
    if point && scale ≥ 28 then
      if Text.isDigit c then roundBy mantissa scale (Text.digitValue c)
      else if c = '.' then some (mantissa, scale)
      else none
    else if Text.isDigit c then
      let next := 10 * mantissa + Text.digitValue c
      if next < 2 ^ (96 : Nat) then readDigits next (if point then scale + 1 else scale) point rest
      else if point then roundBy mantissa scale (Text.digitValue c)
      else none
    else if c = '.' && !point then readDigits mantissa scale true rest
    else none

/-- Reads a number that starts with a digit: digits with at most one point among them. -/
def read? (cs : List Char) : Option Decimal :=
  match cs with
  | c :: _ =>
    if Text.isDigit c then (readDigits 0 0 false cs).bind fun (mantissa, scale) => make? mantissa scale else none
  | [] => none

/-- The text of a number, with all the digits after the point that its scale says. -/
def toText (a : Decimal) : String :=
  let digits := toString a.mantissa
  if a.scale = 0 then digits
  else
    let padded := (List.replicate (a.scale + 1 - digits.length) '0') ++ digits.toList
    let whole := padded.length - a.scale
    String.ofList (padded.take whole ++ '.' :: padded.drop whole)

instance : ToString Decimal := ⟨toText⟩

/-- The mantissa and scale without zeros at the end of the fraction. -/
def dropZeros (mantissa : Nat) : Nat → Nat × Nat
  | 0 => (mantissa, 0)
  | scale + 1 => if mantissa % 10 = 0 then dropZeros (mantissa / 10) scale else (mantissa, scale + 1)

/-- The same number without zeros at the end of the fraction. -/
def shortest (a : Decimal) : Decimal :=
  let (mantissa, scale) := dropZeros a.mantissa a.scale
  (make? mantissa scale).getD a

end Decimal

end DocumentaryCredit

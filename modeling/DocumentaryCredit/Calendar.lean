/-
Calendar dates: the days of the proleptic Gregorian calendar, with a year zero and years before it. A `Date`
is always a day that exists, within the years -262143 to 262142.
-/
import DocumentaryCredit.Text.Ascii

namespace DocumentaryCredit

/-- Every fourth year is a leap year, except the centuries that four hundred does not divide. -/
def isLeapYear (year : Int) : Bool := year % 4 == 0 && (year % 100 != 0 || year % 400 == 0)

/-- The number of days of a month. -/
def daysInMonth (year : Int) (month : Nat) : Nat :=
  if month == 2 then (if isLeapYear year then 29 else 28)
  else if month == 4 || month == 6 || month == 9 || month == 11 then 30
  else 31

/-- The year, month and day name a day of the calendar. -/
def IsDay (year : Int) (month day : Nat) : Prop :=
  (-262143 ≤ year ∧ year ≤ 262142) ∧ (1 ≤ month ∧ month ≤ 12) ∧ 1 ≤ day ∧ day ≤ daysInMonth year month

instance (year : Int) (month day : Nat) : Decidable (IsDay year month day) := by
  unfold IsDay; infer_instance

/-- A day of the calendar. -/
structure Date where
  year : Int
  month : Nat
  day : Nat
  isDay : IsDay year month day
deriving DecidableEq

namespace Date

/-- The day of that name, if there is one. -/
def make? (year : Int) (month day : Nat) : Option Date :=
  if h : IsDay year month day then some ⟨year, month, day, h⟩ else none

/-- `a` is an earlier day than `b`. -/
def before (a b : Date) : Bool :=
  a.year < b.year || (a.year == b.year && (a.month < b.month || (a.month == b.month && a.day < b.day)))

/-- A number with zeros in front up to `width` digits. -/
def padded (width n : Nat) : String :=
  let digits := toString n
  String.ofList (List.replicate (width - digits.length) '0') ++ digits

/-- The year, month and day with hyphens between them; the year has at least four digits, and a sign when it
does not lie between 0 and 9999. -/
def toText (d : Date) : String :=
  let year := padded 4 d.year.natAbs
  let sign := if d.year < 0 then "-" else if 9999 < d.year then "+" else ""
  sign ++ year ++ "-" ++ padded 2 d.month ++ "-" ++ padded 2 d.day

instance : ToString Date := ⟨toText⟩

/-- Reads the dates of field formats: six digits `YYMMDD`, where the years below 70 belong to this century and
the others to the last, or eight digits `YYYYMMDD`. -/
def ofDigits? (cs : List Char) : Option Date :=
  if !cs.all Text.isDigit then none
  else match cs with
    | [y₁, y₂, m₁, m₂, d₁, d₂] =>
      let year := Text.digitsValue [y₁, y₂]
      make? (if year < 70 then 2000 + year else 1900 + year) (Text.digitsValue [m₁, m₂]) (Text.digitsValue [d₁, d₂])
    | [y₁, y₂, y₃, y₄, m₁, m₂, d₁, d₂] =>
      make? (Text.digitsValue [y₁, y₂, y₃, y₄]) (Text.digitsValue [m₁, m₂]) (Text.digitsValue [d₁, d₂])
    | _ => none

end Date

end DocumentaryCredit

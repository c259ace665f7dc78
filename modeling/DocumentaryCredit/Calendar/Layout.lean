/-
The ways a date is laid out on a trade document. A layout is a row of items, each of which reads its part of
the text: years, months by number or by name, days, blanks and separators. A layout reads a text when its
items read all of it and the parts name a day of the calendar.
-/
import DocumentaryCredit.Calendar
import DocumentaryCredit.Text.Blank

namespace DocumentaryCredit.Layout

open Text

/-- One item of a layout. -/
inductive Item where
  /-- Up to four digits, or a sign and any number of digits. -/
  | year
  /-- One or two digits from 1 to 12. -/
  | month
  /-- One or two digits from 1 to 31. -/
  | day
  /-- The first three letters of a month's name. -/
  | shortMonthName
  /-- A month's name, in full or its first three letters. -/
  | monthName
  /-- Any white space, or none. -/
  | blank
  /-- The character itself. -/
  | mark (c : Char)
deriving DecidableEq

/-- The parts of a date that have been read so far. -/
structure Parts where
  year : Option Int := none
  month : Option Nat := none
  day : Option Nat := none

/-- The English names of the months, from January on: three letters and what completes them. -/
def monthNames : List (String × String) := [
  ("jan", "uary"), ("feb", "ruary"), ("mar", "ch"), ("apr", "il"), ("may", ""), ("jun", "e"), ("jul", "y"),
  ("aug", "ust"), ("sep", "tember"), ("oct", "ober"), ("nov", "ember"), ("dec", "ember")]

/-- What follows `word`, given in small letters, at the start of the text; the text may be in either case. -/
def dropWord? (word : String) (cs : List Char) : Option (List Char) :=
  if (cs.take word.length).map Char.toLower == word.toList then some (cs.drop word.length) else none

/-- The number of digits at the start of the text, at most `most`, read as a number; there must be one. -/
def readNumber? (most : Nat) (cs : List Char) : Option (Nat × List Char) :=
  let digits := (cs.take most).takeWhile isDigit
  if digits.isEmpty then none else some (digitsValue digits, cs.drop digits.length)

/-- A month by the first three letters of its name. -/
def readShortMonth? (cs : List Char) : Option (Nat × String × List Char) :=
  monthNames.zipIdx.findSome? fun ((start, completion), index) =>
    (dropWord? start cs).map fun rest => (index + 1, completion, rest)

/-- Reads one item at the start of the text. -/
def Item.read? (parts : Parts) (cs : List Char) : Item → Option (Parts × List Char)
  | .year =>
    let cs := cs.dropWhile isBlankChar
    match cs with
    | '-' :: rest => (readNumber? rest.length rest).map fun (n, rest) => ({ parts with year := some (-(n : Int)) }, rest)
    | '+' :: rest => (readNumber? rest.length rest).map fun (n, rest) => ({ parts with year := some n }, rest)
    | _ => (readNumber? 4 cs).map fun (n, rest) => ({ parts with year := some n }, rest)
  | .month => (readNumber? 2 (cs.dropWhile isBlankChar)).map fun (n, rest) => ({ parts with month := some n }, rest)
  | .day => (readNumber? 2 (cs.dropWhile isBlankChar)).map fun (n, rest) => ({ parts with day := some n }, rest)
  | .shortMonthName => (readShortMonth? cs).map fun (n, _, rest) => ({ parts with month := some n }, rest)
  | .monthName =>
    (readShortMonth? cs).map fun (n, completion, rest) =>
      ({ parts with month := some n }, (dropWord? completion rest).getD rest)
  | .blank => some (parts, cs.dropWhile isBlankChar)
  | .mark c =>
    match cs with
    | first :: rest => if first = c then some (parts, rest) else none
    | [] => none

/-- Reads the items one after another; nothing may be left over. -/
def readItems? (parts : Parts) (cs : List Char) : List Item → Option Parts
  | [] => if cs.isEmpty then some parts else none
  | item :: items => (item.read? parts cs).bind fun (parts, rest) => readItems? parts rest items

end Layout

/-- A layout: its items in order. -/
abbrev Layout := List Layout.Item

namespace Layout

/-- The date that a text states in this layout. -/
def read? (layout : Layout) (s : String) : Option Date :=
  (readItems? {} s.toList layout).bind fun parts =>
    match parts.year, parts.month, parts.day with
    | some year, some month, some day => Date.make? year month day
    | _, _, _ => none

/-- The layouts of trade documents, in the order in which they are tried. -/
def onDocuments : List Layout := [
  [.year, .mark '-', .month, .mark '-', .day],
  [.day, .mark '/', .month, .mark '/', .year],
  [.day, .mark '.', .month, .mark '.', .year],
  [.day, .mark '-', .month, .mark '-', .year],
  [.day, .blank, .shortMonthName, .blank, .year],
  [.day, .mark '-', .shortMonthName, .mark '-', .year],
  [.day, .blank, .monthName, .blank, .year],
  [.shortMonthName, .blank, .day, .mark ',', .blank, .year],
  [.monthName, .blank, .day, .mark ',', .blank, .year],
  [.shortMonthName, .blank, .day, .blank, .year],
  [.monthName, .blank, .day, .blank, .year]]

end DocumentaryCredit.Layout

/-
The ASCII side of text: digits, letters and case. Tags, message types, keys and names are compared in ASCII
case only, so that no other letter ever folds onto one of theirs.
-/

namespace DocumentaryCredit.Text

/-- The digits `0` to `9`. -/
def isDigit (c : Char) : Bool := '0' ≤ c && c ≤ '9'

/-- The capital letters `A` to `Z`. -/
def isUpper (c : Char) : Bool := 'A' ≤ c && c ≤ 'Z'

/-- The small letters `a` to `z`. -/
def isLower (c : Char) : Bool := 'a' ≤ c && c ≤ 'z'

/-- The letters `A` to `Z` in either case. -/
def isLetter (c : Char) : Bool := isUpper c || isLower c

/-- The number a digit stands for. -/
def digitValue (c : Char) : Nat := c.toNat - '0'.toNat

/-- The number a string of digits stands for, most significant digit first. -/
def digitsValue (cs : List Char) : Nat := cs.foldl (fun n c => 10 * n + digitValue c) 0

/-- The value of a hexadecimal digit. -/
def hexValue? (c : Char) : Option Nat :=
  if isDigit c then some (digitValue c)
  else if 'a' ≤ c && c ≤ 'f' then some (c.toNat - 'a'.toNat + 10)
  else if 'A' ≤ c && c ≤ 'F' then some (c.toNat - 'A'.toNat + 10)
  else none

/-- The number that hexadecimal digits spell. -/
def hexNumber? (digits : List Char) : Option Nat := digits.foldlM (fun n c => (hexValue? c).map (16 * n + ·)) 0

/-- The character with a code point. -/
def charOfCode? (n : Nat) : Option Char :=
  if n < 0xD800 || (0xE000 ≤ n && n < 0x110000) then some (Char.ofNat n) else none

/-- The text with `a` to `z` written as capitals; `Char.toUpper` knows these letters only. -/
def asciiUpper (s : String) : String := String.ofList (s.toList.map Char.toUpper)

/-- The text with `A` to `Z` written as small letters. -/
def asciiLower (s : String) : String := String.ofList (s.toList.map Char.toLower)

/-- Equality of texts up to the case of ASCII letters. -/
def equalIgnoringCase (a b : String) : Bool := asciiLower a == asciiLower b

/-- The text with the character `old` written as `new` throughout. -/
def replaceChar (old new : Char) (s : String) : String :=
  String.ofList (s.toList.map fun c => if c == old then new else c)

/-- Reads a number written in ASCII digits, with an optional `+`, that is at most `limit`. -/
def readNat? (limit : Nat) (s : String) : Option Nat :=
  let digits := match s.toList with
    | '+' :: rest => rest
    | cs => cs
  if digits.isEmpty || !digits.all isDigit then none
  else
    let n := digitsValue digits
    if n ≤ limit then some n else none

/-- The largest number of 16 bits. -/
def maxNat16 : Nat := 65535

/-- The largest number of 32 bits. -/
def maxNat32 : Nat := 4294967295

/-- The largest number of 64 bits. -/
def maxNat64 : Nat := 18446744073709551615

end DocumentaryCredit.Text

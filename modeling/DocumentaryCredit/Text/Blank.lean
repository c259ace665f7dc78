/-
White space and lines: which characters separate words, and the ways a text is trimmed, split into words
and split into lines. Field values carry line feeds only (`normalizeLineBreaks`); text blocks on the wire use
carriage return and line feed.
-/

namespace DocumentaryCredit.Text

/-- The characters with the Unicode property `White_Space`. -/
def isBlankChar (c : Char) : Bool :=
  let n := c.toNat
  (9 ≤ n && n ≤ 13) || n == 0x20 || n == 0x85 || n == 0xA0 || n == 0x1680 || (0x2000 ≤ n && n ≤ 0x200A) ||
    n == 0x2028 || n == 0x2029 || n == 0x202F || n == 0x205F || n == 0x3000

/-- Removes the characters that satisfy `p` from both ends. -/
def trimChars (p : Char → Bool) (cs : List Char) : List Char :=
  ((cs.dropWhile p).reverse.dropWhile p).reverse

/-- The text without the white space around it. -/
def trim (s : String) : String := String.ofList (trimChars isBlankChar s.toList)

/-- A text counts as absent when it holds nothing but white space. -/
def isBlank (s : String) : Bool := s.toList.all isBlankChar

/-- The pieces of a text between the separators that satisfy `p`, empty pieces included. -/
def splitWhere (p : Char → Bool) : List Char → List (List Char)
  | [] => [[]]
  | c :: cs =>
    match splitWhere p cs with
    | [] => [[]]
    | piece :: pieces => if p c then [] :: piece :: pieces else (c :: piece) :: pieces

/-- The pieces of a text between the characters `separator`. -/
def splitOn (separator : Char) (s : String) : List String :=
  (splitWhere (· == separator) s.toList).map String.ofList

/-- The words of a text: its maximal runs of characters other than white space. -/
def words (s : String) : List String :=
  ((splitWhere isBlankChar s.toList).filter (fun piece => !piece.isEmpty)).map String.ofList

/-- The words of a text, one blank between each two. -/
def singleSpaced (s : String) : String := " ".intercalate (words s)

/-- A line without the carriage return that stood before its line feed. -/
def dropCarriageReturn (line : List Char) : List Char :=
  match line.reverse with
  | '\r' :: rest => rest.reverse
  | _ => line

/-- The lines of a text that ends each line with a line feed, or with a carriage return and a line feed.
What follows the last line feed is a line of its own unless it is empty. -/
def lines (s : String) : List String :=
  let pieces := splitWhere (· == '\n') s.toList
  let ended := pieces.dropLast.map dropCarriageReturn
  let rest := (pieces.getLast?.getD []) 
  (if rest.isEmpty then ended else ended ++ [rest]).map String.ofList

/-- Writes every line break, be it CR LF, CR or LF, as one LF. -/
def unifyLineBreaks : List Char → List Char
  | [] => []
  | '\r' :: '\n' :: rest => '\n' :: unifyLineBreaks rest
  | c :: rest => (if c = '\r' then '\n' else c) :: unifyLineBreaks rest

/-- The text with `\n` for every line break. -/
def normalizeLineBreaks (s : String) : String := String.ofList (unifyLineBreaks s.toList)

/-- The text without `start`, when it begins with it. -/
def stripStart? (start s : String) : Option String :=
  if start.toList.isPrefixOf s.toList then some (String.ofList (s.toList.drop start.length)) else none

/-- The text without `stop`, when it ends with it. -/
def stripEnd? (stop s : String) : Option String :=
  if stop.toList.isSuffixOf s.toList then some (String.ofList (s.toList.take (s.length - stop.length))) else none

end DocumentaryCredit.Text

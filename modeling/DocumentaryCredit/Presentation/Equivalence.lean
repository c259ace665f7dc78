/-
When two texts that are written differently count as variants of one: their words may be interchangeable, and
their punctuation may not count. Without such settings every difference counts.
-/
import DocumentaryCredit.Presentation.Value
import DocumentaryCredit.TextMap

namespace DocumentaryCredit

/-- Which differences between texts are only variants. -/
structure Equivalence where
  /-- Punctuation does not count. -/
  stripPunctuation : Bool := false
  /-- Groups of words that stand for each other. -/
  groups : List (List String) := []
deriving DecidableEq

namespace Equivalence

/-- Whether any difference is a variant. -/
def isSet (e : Equivalence) : Bool := e.stripPunctuation || !e.groups.isEmpty

/-- Adds the members of a group: each stands for the first of them, unless it belongs to an earlier group. -/
def addGroup (words : TextMap String) (group : List String) : TextMap String :=
  match (group.map (normalizeText · true)).filter (!·.isEmpty) with
  | [] => words
  | head :: members => members.foldl (fun words member => words.insertIfNew member head) (words.insert head head)

/-- The word that stands for each of the words of the groups. -/
def substitutions (e : Equivalence) : TextMap String := e.groups.foldl addGroup TextMap.empty

/-- A word without full stops behind it. -/
def bareWord (word : String) : String := String.ofList (word.toList.reverse.dropWhile (· == '.')).reverse

/-- The text in which each word of a group, with or without full stops behind it, is written as the first of
its group. -/
def canonical (e : Equivalence) (s : String) : String :=
  let words := e.substitutions
  " ".intercalate ((Text.splitOn ' ' (normalizeText s e.stripPunctuation)).map fun word =>
    (words.get? (bareWord word)).getD word)

/-- Whether two texts are variants of each other. -/
def relates (e : Equivalence) (a b : String) : Bool := e.isSet && e.canonical a == e.canonical b

end Equivalence

end DocumentaryCredit

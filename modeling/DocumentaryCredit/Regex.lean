/-
Regular expressions, as the pattern rules of fields use them. An expression is kept in a simple form: parts in
a row are not nested, letters in a row are one literal, choices between single characters are one set, and what
all choices start with stands in front of them. The functions of this module that build expressions keep that
form; how much room an expression takes (`Regex.Size`) is measured on it.
-/
import DocumentaryCredit.Regex.CharSet

namespace DocumentaryCredit

/-- A condition on a place in a text. -/
inductive Look where
  /-- The start of the text. -/
  | start
  /-- The end of the text. -/
  | stop
  /-- Between a character of a word and one that is none. -/
  | wordBoundary
  /-- Not at a word boundary. -/
  | noWordBoundary
  /-- The start of a word. -/
  | wordStart
  /-- The end of a word. -/
  | wordEnd
  /-- Not after a character of a word. -/
  | noWordBefore
  /-- Not before a character of a word. -/
  | noWordAfter
deriving DecidableEq

/-- A regular expression. -/
inductive Regex where
  | empty
  | literal (text : List Char)
  /-- One character of a set. -/
  | set (s : CharSet)
  | look (condition : Look)
  /-- A numbered group. -/
  | group (number : Nat) (body : Regex)
  /-- A part and the row of parts after it. -/
  | sequence (first rest : Regex)
  /-- A choice and the choices after it. -/
  | either (first rest : Regex)
  /-- At least so many and at most so many times. -/
  | times (least : Nat) (most : Option Nat) (body : Regex)
deriving DecidableEq

namespace Regex

/-- The expression that nothing matches. -/
def nothing : Regex := set ⟨[]⟩

/-! ## Lengths -/

/-- The length of the shortest match; none when part of the expression has no match. -/
def minLength? : Regex → Option Nat
  | empty | look _ => some 0
  | literal text => some text.length
  | set s => if s.ranges.isEmpty then none else some 1
  | group _ body => body.minLength?
  | sequence first rest => do return (← first.minLength?) + (← rest.minLength?)
  | either first rest => do return min (← first.minLength?) (← rest.minLength?)
  | times least _ body => body.minLength?.map (least * ·)

/-- A bound on the length of matches, where there is one. -/
def maxLength? : Regex → Option Nat
  | empty | look _ => some 0
  | literal text => some text.length
  | set s => if s.ranges.isEmpty then none else some 1
  | group _ body => body.maxLength?
  | sequence first rest => do return (← first.maxLength?) + (← rest.maxLength?)
  | either first rest => do return max (← first.maxLength?) (← rest.maxLength?)
  | times _ most body => do return (← most) * (← body.maxLength?)

/-- Whether all that an expression matches is the empty text. -/
def isEmptyOnly (r : Regex) : Bool := r.maxLength? == some 0

/-! ## Building expressions -/

/-- The parts of a row. -/
def parts : Regex → List Regex
  | empty => []
  | sequence first rest => first :: rest.parts
  | r => [r]

/-- The choices of an expression. -/
def choices : Regex → List Regex
  | either first rest => first :: rest.choices
  | r => [r]

/-- Puts a part in front of a row; two literals become one. -/
def addPart (part : Regex) (row : List Regex) : List Regex :=
  match part, row with
  | literal text, literal more :: rest => literal (text ++ more) :: rest
  | part, row => part :: row

/-- The row of some parts. -/
def ofParts : List Regex → Regex
  | [] => empty
  | [part] => part
  | part :: rest => sequence part (ofParts rest)

/-- Expressions one after another. -/
def inOrder (rs : List Regex) : Regex := ofParts ((rs.flatMap parts).foldr addPart [])

/-- The expression of a set. -/
def ofSet (s : CharSet) : Regex :=
  match s.single? with
  | some c => literal [c]
  | none => set s

/-- Repeats an expression; what matches the empty text only is not repeated more than once. -/
def repeated (least : Nat) (most : Option Nat) (body : Regex) : Regex :=
  let least := if body.isEmptyOnly then min least 1 else least
  let most := if body.isEmptyOnly then some (min (most.getD 1) 1) else most
  if most = some 0 then empty
  else if least = 1 ∧ most = some 1 then body
  else times least most body

/-- The characters of choices that are all single characters. -/
def singleChars? (rs : List Regex) : Option (List Char) :=
  rs.mapM fun
    | literal [c] => some c
    | _ => none

/-- The sets of choices that are all sets. -/
def sets? (rs : List Regex) : Option (List CharSet) :=
  rs.mapM fun
    | set s => some s
    | _ => none

/-- The number of parts that two rows start with in common. -/
def commonParts : List Regex → List Regex → Nat
  | a :: as, b :: bs => if a = b then commonParts as bs + 1 else 0
  | _, _ => 0

/-- The rows of choices that are all rows of two parts or more. -/
def rows? (rs : List Regex) : Option (List (List Regex)) :=
  rs.mapM fun
    | sequence first rest => some (first :: rest.parts)
    | _ => none

/-- The choices one after another, as they are. -/
def ofChoices : List Regex → Regex
  | [] => nothing
  | [r] => r
  | r :: rest => either r (ofChoices rest)

/-- The choice between expressions. What they all start with is lifted out of the choices; `allowance` bounds how
often that is done again for what is left of them. -/
def oneOf : Nat → List Regex → Regex
  | allowance, rs =>
    let rs := rs.flatMap choices
    if rs.length < 2 then ofChoices rs
    else match singleChars? rs with
    | some cs => ofSet (CharSet.ofRanges (cs.map fun c => (c.toNat, c.toNat)))
    | none =>
      match sets? rs with
      | some sets => ofSet (CharSet.ofRanges (sets.flatMap (·.ranges)))
      | none =>
        match allowance, rows? rs with
        | allowance + 1, some (row :: rows) =>
          let common := rows.foldl (fun n next => min n (commonParts row next)) row.length
          if common = 0 then ofChoices rs
          else
            let left := (row :: rows).map fun parts => inOrder (parts.drop common)
            inOrder (row.take common ++ [oneOf allowance left])
        | _, _ => ofChoices rs

end Regex

end DocumentaryCredit

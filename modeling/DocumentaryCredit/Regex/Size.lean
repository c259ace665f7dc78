/-
The room that a regular expression takes when it is turned into an automaton over the bytes of UTF-8. An
expression whose automaton takes more than ten mebibytes is refused, and so is one whose reversed automaton
does, the automaton that reads a text from its end.

A state takes 32 bytes; a state that reads one of several ranges takes 8 more for each of them, a state that
branches 4 more for each branch. A repetition is written out: a hundred times an expression takes a hundred
times its room. All sizes count the branch from an expression to what follows it.
-/
import DocumentaryCredit.Regex
import DocumentaryCredit.Text.Utf8

namespace DocumentaryCredit.Regex

-- Powers and sums of whole numbers are those of the core library, whatever else is in scope.
attribute [local instance (high)] instPowNat Zero.ofOfNat0

/-- The room of a state. -/
def stateSize : Nat := 32

/-- The further room of a state for each range that it reads. -/
def rangeSize : Nat := 8

/-- The further room of a state for each branch. -/
def branchSize : Nat := 4

/-- The room that the automaton of an expression may take. -/
def sizeLimit : Nat := 10 * 2 ^ (20 : Nat)

/-! ## Sets of characters -/

/-- The bytes of a code point. -/
def codeBytes (n : Nat) : List Nat :=
  if n < 0x80 then [n]
  else if n < 0x800 then [0xC0 + n / 0x40, 0x80 + n % 0x40]
  else if n < 0x10000 then [0xE0 + n / 0x1000, 0x80 + n / 0x40 % 0x40, 0x80 + n % 0x40]
  else [0xF0 + n / 0x40000, 0x80 + n / 0x1000 % 0x40, 0x80 + n / 0x40 % 0x40, 0x80 + n % 0x40]

/-- The ranges of code points whose characters have one number of bytes. -/
def widthRanges : List (Nat × Nat) :=
  [(0, 0x7F), (0x80, 0x7FF), (0x800, 0xD7FF), (0xE000, 0xFFFF), (0x10000, 0x10FFFF)]

/-- Where a range of characters of one width is cut in two, so that in each part the bytes of the characters vary
independently; `blocks` holds the sizes of the blocks of characters that share all but their last bytes. -/
def cut? (low high : Nat) (blocks : List Nat) : Option Nat :=
  blocks.findSome? fun block =>
    if low / block = high / block then none
    else if low % block ≠ 0 then some ((low / block + 1) * block)
    else if high % block ≠ block - 1 then some (high / block * block)
    else none

/-- A range of bytes for each byte of a character. -/
abbrev ByteRow := List (Nat × Nat)

/-- The rows that a range of characters of one width is written with. A range is cut at most twice for each byte
after the first; the allowance bounds the cuts. -/
def byteRows : Nat → Nat → Nat → List ByteRow
  | 0, low, high => [(codeBytes low).zip (codeBytes high)]
  | allowance + 1, low, high =>
    match if high < 0x80 then none else cut? low high [0x40, 0x1000, 0x40000] with
    | some middle => byteRows allowance low (middle - 1) ++ byteRows allowance middle high
    | none => [(codeBytes low).zip (codeBytes high)]

/-- The rows of a set, in ascending order. -/
def setRows (s : CharSet) : List ByteRow :=
  s.ranges.flatMap fun (low, high) =>
    widthRanges.flatMap fun (start, stop) =>
      if max low start ≤ min high stop then byteRows 8 (max low start) (min high stop) else []

/-- What follows a range in the rows that start with it. -/
def rowsAfter (range : Nat × Nat) (rows : List ByteRow) : List ByteRow :=
  rows.filterMap fun
    | [] => none
    | first :: rest => if first = range then some rest else none

/-- The states that read some rows, each told by the rows that are still to be read. -/
def rowStates : Nat → List ByteRow → List (List ByteRow)
  | 0, _ => []
  | width + 1, rows =>
    if rows.all (·.isEmpty) then []
    else rows :: (rows.filterMap List.head?).eraseDups.flatMap fun range => rowStates width (rowsAfter range rows)

/-- The number of ranges that two rows start with in common. -/
def commonRanges : ByteRow → ByteRow → Nat
  | a :: as, b :: bs => if a = b then commonRanges as bs + 1 else 0
  | _, _ => 0

/-- The number of different starts of rows in ascending order, after another row. -/
def countStarts (before : ByteRow) : List ByteRow → Nat
  | [] => 0
  | row :: rest => row.length - commonRanges before row + countStarts row rest

/-- The room of a set of characters. Forwards, two states with the same rows still to be read are one; backwards,
rows share the states of the ranges that they start with. -/
def setSize (backward : Bool) (s : CharSet) : Nat :=
  if s.isAscii then 2 * stateSize + rangeSize * s.ranges.length
  else
    let rows := setRows s
    if backward then 2 * stateSize + branchSize * rows.length + stateSize * countStarts [] rows
    else
      let states := (rowStates 4 rows).eraseDups
      stateSize + (states.map fun rows => stateSize + rangeSize * (rows.filterMap List.head?).eraseDups.length).sum

/-! ## Choices between literals -/

/-- The texts between the empty ones. -/
def betweenEmpty : List (List UInt8) → List (List (List UInt8))
  | [] => [[]]
  | text :: rest =>
    match betweenEmpty rest with
    | [] => [[]]
    | run :: runs => if text.isEmpty then [] :: run :: runs else (text :: run) :: runs

/-- The texts without the empty ones that do nothing: of those at the start only one counts. -/
def dropRepeatedEmpty : List (List UInt8) → List (List UInt8)
  | [] :: [] :: rest => dropRepeatedEmpty ([] :: rest)
  | texts => texts

/-- The room of a tree that reads one of some texts; what two texts start with is read once, unless a text ends
between them. -/
def treeSize : Nat → List (List UInt8) → Nat
  | 0, _ => 0
  | depth + 1, texts =>
    if texts.all (·.isEmpty) then 0
    else
      let runs := betweenEmpty (dropRepeatedEmpty texts)
      let sizes := runs.map fun run =>
        let heads := (run.filterMap List.head?).eraseDups
        let inner := (heads.map fun b =>
          treeSize depth (run.filterMap fun
            | [] => none
            | first :: rest => if first = b then some rest else none)).sum
        match heads.length with
        | 0 => 0
        | 1 => stateSize + branchSize + inner
        | n => stateSize + rangeSize * n + branchSize + inner
      stateSize + branchSize * (runs.length - 1) + sizes.sum

/-- The texts of choices that are all literals. -/
def literals? : Regex → Option (List (List Char))
  | literal text => some [text]
  | either first rest => do return (← first.literals?) ++ (← rest.literals?)
  | _ => none

/-- The bytes of a literal, in the order in which they are read. -/
def literalBytes (backward : Bool) (text : List Char) : List UInt8 :=
  let bytes := Text.toBytes (String.ofList text)
  if backward then bytes.reverse else bytes

/-- The room of choices whose sizes are known. -/
def choicesSize (backward : Bool) (r : Regex) (sizes : List Nat) : Nat :=
  match sizes with
  | [size] => size
  | sizes =>
    match r.literals? with
    | some texts =>
      let texts := texts.map (literalBytes backward)
      stateSize + treeSize ((texts.map List.length).foldl max 0 + 1) texts
    | none => 2 * stateSize + (sizes.map (branchSize + ·)).sum

/-! ## Expressions -/

/-- The room of a repetition of an expression of a known size. -/
def timesSize (least : Nat) (most : Option Nat) (canBeEmpty : Bool) (size : Nat) : Nat :=
  match least, most with
  | 0, some 1 => 2 * stateSize + 2 * branchSize + size
  | 0, none =>
    if canBeEmpty then 3 * stateSize + 4 * branchSize + size else stateSize + 2 * branchSize + size
  | least, none => least * size + stateSize + 2 * branchSize
  | least, some most =>
    let copies := if least = 0 then stateSize else least * size
    if least = most then copies
    else copies + stateSize + (most - least) * (stateSize + 2 * branchSize + size)

/-- The rooms of the choices of an expression. -/
def choiceSizes (backward : Bool) : Regex → List Nat
  | empty | look _ => [stateSize]
  | literal text => [stateSize * (literalBytes backward text).length]
  | set s => [setSize backward s]
  | group _ body =>
    let size := choicesSize backward body (choiceSizes backward body)
    [if backward then size else 2 * stateSize + size]
  | sequence first rest =>
    [choicesSize backward first (choiceSizes backward first) + choicesSize backward rest (choiceSizes backward rest)]
  | either first rest => choicesSize backward first (choiceSizes backward first) :: choiceSizes backward rest
  | times least most body =>
    let size := choicesSize backward body (choiceSizes backward body)
    [timesSize least most (body.minLength?.all (· = 0)) size]

/-- The room of an expression. -/
def size (backward : Bool) (r : Regex) : Nat := choicesSize backward r (choiceSizes backward r)

/-- Whether every match starts at the start of the text. -/
def startsAtStart : Regex → Bool
  | look .start => true
  | group _ body => body.startsAtStart
  | sequence first rest => first.startsAtStart || (first.isEmptyOnly && rest.startsAtStart)
  | either first rest => first.startsAtStart && rest.startsAtStart
  | times least _ body => least > 0 && body.startsAtStart
  | _ => false

/-- Whether every match stops at the end of the text. -/
def stopsAtEnd : Regex → Bool
  | look .stop => true
  | group _ body => body.stopsAtEnd
  | sequence first rest => rest.stopsAtEnd || (rest.isEmptyOnly && first.stopsAtEnd)
  | either first rest => first.stopsAtEnd && rest.stopsAtEnd
  | times least _ body => least > 0 && body.stopsAtEnd
  | _ => false

/-- The room of the part of an automaton that passes over what precedes a match. -/
def leadSize (isAnchored : Bool) : Nat :=
  if isAnchored then stateSize else 3 * stateSize + 2 * branchSize + rangeSize

/-- The room of the automaton of an expression; read forwards it marks where a match starts and stops. -/
def automatonSize (backward : Bool) (r : Regex) : Nat :=
  if backward then leadSize r.stopsAtEnd + stateSize + r.size true
  else leadSize r.startsAtStart + 3 * stateSize + r.size false

/-- Whether the automata of an expression stay within the limit. -/
def isWithinLimit (r : Regex) : Bool :=
  r.automatonSize false ≤ sizeLimit && r.automatonSize true ≤ sizeLimit

end DocumentaryCredit.Regex

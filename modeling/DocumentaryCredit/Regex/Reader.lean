/-
Reading regular expressions: characters and their escapes, the point, classes, groups, choices, repetitions, and
conditions on the ends of texts and words. Flags of groups, classes by Unicode property and views of what
surrounds a match are not part of the language and are refused, as is everything malformed, what is nested too
deeply and what is too large.

The text is read from left to right; the groups that are still open stand on a stack, and so do the classes.
-/
import DocumentaryCredit.Regex.Size
import DocumentaryCredit.Text.Ascii
import DocumentaryCredit.Text.Blank

namespace DocumentaryCredit.Regex

/-- How deeply an expression may be nested: groups, bracketed classes, repetitions, rows of parts and choices each
count. -/
def nestingLimit : Nat := 250

/-! ## Escapes -/

/-- The character whose code point is written in hexadecimal digits. -/
def hexChar? (digits : List Char) : Option Char :=
  if digits.isEmpty then none else (Text.hexNumber? digits).bind Text.charOfCode?

/-- Reads a code point of `width` digits, or of any number of digits in braces. -/
def readHex? (width : Nat) (cs : List Char) : Option (Char × List Char) :=
  match cs with
  | '{' :: rest =>
    let digits := rest.takeWhile (· != '}')
    if digits.length = rest.length then none
    else (hexChar? digits).map fun c => (c, rest.drop (digits.length + 1))
  | _ => if cs.length < width then none else (hexChar? (cs.take width)).map fun c => (c, cs.drop width)

/-- What an escape stands for. -/
inductive Escape where
  | char (c : Char)
  | set (s : CharSet)
  | look (condition : Look)

/-- Reads the condition on words that `\b` may go on with in braces. Braces that do not start with a letter or a
hyphen are a repetition. -/
def readWordCondition? (cs : List Char) : Option (Look × List Char) :=
  let isNamePart (c : Char) : Bool := Text.isLetter c || c == '-'
  match cs with
  | '{' :: rest =>
    if rest.head?.any isNamePart then
      let name := rest.takeWhile isNamePart
      match String.ofList name, rest.drop name.length with
      | "start", '}' :: rest => some (.wordStart, rest)
      | "end", '}' :: rest => some (.wordEnd, rest)
      | "start-half", '}' :: rest => some (.noWordBefore, rest)
      | "end-half", '}' :: rest => some (.noWordAfter, rest)
      | _, _ => none
    else some (.wordBoundary, cs)
  | _ => some (.wordBoundary, cs)

/-- Reads an escape after its backslash. -/
def readEscape? : List Char → Option (Escape × List Char)
  | [] => none
  | c :: rest =>
    match c with
    | 'x' => (readHex? 2 rest).map fun (c, rest) => (.char c, rest)
    | 'u' => (readHex? 4 rest).map fun (c, rest) => (.char c, rest)
    | 'U' => (readHex? 8 rest).map fun (c, rest) => (.char c, rest)
    | 'd' => some (.set .digits, rest)
    | 'D' => some (.set CharSet.digits.complement, rest)
    | 's' => some (.set .blanks, rest)
    | 'S' => some (.set CharSet.blanks.complement, rest)
    | 'w' => some (.set .words, rest)
    | 'W' => some (.set CharSet.words.complement, rest)
    | 'A' => some (.look .start, rest)
    | 'z' => some (.look .stop, rest)
    | 'b' => (readWordCondition? rest).map fun (condition, rest) => (.look condition, rest)
    | 'B' => some (.look .noWordBoundary, rest)
    | '<' => some (.look .wordStart, rest)
    | '>' => some (.look .wordEnd, rest)
    | 'a' => some (.char (Char.ofNat 0x07), rest)
    | 'f' => some (.char (Char.ofNat 0x0C), rest)
    | 't' => some (.char '\t', rest)
    | 'n' => some (.char '\n', rest)
    | 'r' => some (.char '\r', rest)
    | 'v' => some (.char (Char.ofNat 0x0B), rest)
    | c =>
      if c.toNat ≥ 0x80 || Text.isLetter c || Text.isDigit c then none else some (.char c, rest)

/-! ## Classes -/

/-- A set with the depth to which the text it was read from is nested. -/
structure ClassPart where
  set : CharSet
  nesting : Nat

namespace ClassPart

/-- The set of all the parts. -/
def join : List ClassPart → ClassPart
  | [] => ⟨⟨[]⟩, 0⟩
  | [part] => part
  | parts => ⟨CharSet.ofRanges (parts.flatMap (·.set.ranges)), (parts.map (·.nesting)).foldl max 0 + 1⟩

end ClassPart

/-- A class whose closing bracket has not been read. -/
structure OpenClass where
  isComplement : Bool
  /-- The operation whose second operand is being read, applied to the first. -/
  pending : Option ((CharSet → CharSet → CharSet) × ClassPart) := none
  /-- The parts of what is being read, in reverse order. -/
  parts : List ClassPart := []

namespace OpenClass

/-- Adds a set. -/
def add (c : OpenClass) (part : ClassPart) : OpenClass := { c with parts := part :: c.parts }

/-- What has been read so far. -/
def current (c : OpenClass) : ClassPart :=
  let last := ClassPart.join c.parts.reverse
  match c.pending with
  | none => last
  | some (operation, first) => ⟨operation first.set last.set, max first.nesting last.nesting + 1⟩

/-- Goes on with the second operand of an operation. -/
def operate (c : OpenClass) (operation : CharSet → CharSet → CharSet) : OpenClass :=
  { c with pending := some (operation, c.current), parts := [] }

/-- The set of the class. -/
def close (c : OpenClass) : ClassPart :=
  let content := c.current
  ⟨if c.isComplement then content.set.complement else content.set, content.nesting + 1⟩

end OpenClass

/-- Opens a class after its bracket, with what follows. Hyphens at its start, and a closing bracket before anything
else, stand for themselves. -/
def openClass (cs : List Char) : OpenClass × List Char :=
  let isComplement := cs.head? = some '^'
  let cs := if isComplement then cs.drop 1 else cs
  let hyphens := cs.takeWhile (· == '-')
  let cs := cs.drop hyphens.length
  let closing := hyphens.isEmpty && cs.head? = some ']'
  let cs := if closing then cs.drop 1 else cs
  let first := hyphens ++ if closing then [']'] else []
  ({ isComplement, parts := first.map fun c => ⟨CharSet.single c, 0⟩ }, cs)

/-- Reads a named set within a class after its bracket and colon. -/
def readNamed? (cs : List Char) : Option (CharSet × List Char) :=
  let isComplement := cs.head? = some '^'
  let cs := if isComplement then cs.drop 1 else cs
  let name := cs.takeWhile (· != ':')
  match cs.drop name.length with
  | ':' :: ']' :: rest =>
    (CharSet.named? (String.ofList name)).map fun s => (if isComplement then s.complement else s, rest)
  | _ => none

/-- Reads what a class holds at a place: a character or a set. -/
def classItem? : List Char → Option (Escape × List Char)
  | '\\' :: rest => readEscape? rest
  | c :: rest => some (.char c, rest)
  | [] => none

/-- Reads a character, a range or an escaped set of a class. A hyphen before the closing bracket or before another
hyphen makes no range. -/
def classRange? (cs : List Char) : Option (CharSet × List Char) :=
  (classItem? cs).bind fun (item, rest) =>
    let isRange := match rest with
      | '-' :: next :: _ => next != ']' && next != '-'
      | _ => false
    match item with
    | .look _ => none
    | .set s => if isRange then none else some (s, rest)
    | .char low =>
      if isRange then
        (classItem? (rest.drop 1)).bind fun
          | (.char high, rest) => if high < low then none else some (⟨[(low.toNat, high.toNat)]⟩, rest)
          | _ => none
      else some (CharSet.single low, rest)

/-- The classes that are open, the innermost first, or the set of the outermost one. -/
inductive ClassState where
  | reading (innermost : OpenClass) (outer : List OpenClass)
  | done (part : ClassPart)

/-- Reads what stands at the start of a text into the innermost open class. -/
def readClassPart? (c : OpenClass) (outer : List OpenClass) (cs : List Char) : Option (ClassState × List Char) :=
  let nested (rest : List Char) : Option (ClassState × List Char) :=
    let (inner, rest) := openClass rest
    some (.reading inner (c :: outer), rest)
  match cs with
  | [] => none
  | '[' :: ':' :: rest =>
    match readNamed? rest with
    | some (s, rest) => some (.reading (c.add ⟨s, 0⟩) outer, rest)
    | none => nested (':' :: rest)
  | '[' :: rest => nested rest
  | ']' :: rest =>
    match outer with
    | [] => some (.done c.close, rest)
    | parent :: outer => some (.reading (parent.add c.close) outer, rest)
  | '&' :: '&' :: rest => some (.reading (c.operate CharSet.inter) outer, rest)
  | '-' :: '-' :: rest => some (.reading (c.operate CharSet.difference) outer, rest)
  | '~' :: '~' :: rest => some (.reading (c.operate CharSet.symmetricDifference) outer, rest)
  | cs => (classRange? cs).map fun (s, rest) => (.reading (c.add ⟨s, 0⟩) outer, rest)

/-- Reads classes up to the closing bracket of the outermost one. The allowance bounds the number of parts; the
length of the text is enough. -/
def readClassParts? (c : OpenClass) (outer : List OpenClass) : Nat → List Char → Option (ClassPart × List Char)
  | 0, _ => none
  | allowance + 1, cs =>
    (readClassPart? c outer cs).bind fun
      | (.done part, rest) => some (part, rest)
      | (.reading c outer, rest) => readClassParts? c outer allowance rest

/-- Reads a class after its opening bracket. -/
def readClass? (cs : List Char) : Option (ClassPart × List Char) :=
  let (c, rest) := openClass cs
  readClassParts? c [] (rest.length + 1) rest

/-! ## Repetitions -/

/-- Reads a count of 32 bits with white space around it. -/
def readCount? (cs : List Char) : Option (Nat × List Char) :=
  let cs := cs.dropWhile Text.isBlankChar
  let digits := cs.takeWhile Text.isDigit
  let n := Text.digitsValue digits
  if digits.isEmpty || n > Text.maxNat32 then none
  else some (n, (cs.drop digits.length).dropWhile Text.isBlankChar)

/-- Reads the bounds of a repetition after its opening brace. -/
def readBounds? (cs : List Char) : Option (Nat × Option Nat × List Char) :=
  (readCount? cs).bind fun (least, rest) =>
    match rest with
    | '}' :: rest => some (least, some least, rest)
    | ',' :: '}' :: rest => some (least, none, rest)
    | ',' :: rest =>
      (readCount? rest).bind fun (most, rest) =>
        match rest with
        | '}' :: rest => if most < least then none else some (least, some most, rest)
        | _ => none
    | _ => none

/-- Reads a repetition at the start of a text. -/
def readRepetition? : List Char → Option (Nat × Option Nat × List Char)
  | '*' :: rest => some (0, none, rest)
  | '+' :: rest => some (1, none, rest)
  | '?' :: rest => some (0, some 1, rest)
  | '{' :: rest => readBounds? rest
  | _ => none

/-- Whether a character starts a repetition. -/
def startsRepetition (c : Char) : Bool := c == '*' || c == '+' || c == '?' || c == '{'

/-! ## Expressions -/

/-- An expression with the depth to which the text it was read from is nested. -/
structure Part where
  expression : Regex
  nesting : Nat

namespace Part

/-- A part that nothing is nested in. -/
def plain (r : Regex) : Part := ⟨r, 0⟩

/-- The greatest depth of some parts. -/
def depth (parts : List Part) : Nat := (parts.map (·.nesting)).foldl max 0

/-- Parts one after another. -/
def row : List Part → Part
  | [part] => part
  | [] => plain empty
  | parts => ⟨inOrder (parts.map (·.expression)), depth parts + 1⟩

/-- The choice between parts. -/
def choice : List Part → Part
  | [part] => part
  | parts => ⟨oneOf nestingLimit (parts.map (·.expression)), depth parts + 1⟩

/-- The part, if it is not nested too deeply. -/
def within? (part : Part) : Option Part := if part.nesting ≤ nestingLimit then some part else none

end Part

/-- A group that is still open: its number when it has one, its earlier choices and the parts of the current one,
both in reverse order. -/
structure OpenGroup where
  number : Option Nat
  earlier : List Part := []
  parts : List Part := []

namespace OpenGroup

/-- Adds a part to the current choice. -/
def add (g : OpenGroup) (part : Part) : OpenGroup := { g with parts := part :: g.parts }

/-- Starts the next choice. -/
def next (g : OpenGroup) : OpenGroup := { g with earlier := Part.row g.parts.reverse :: g.earlier, parts := [] }

/-- What the group holds. -/
def content (g : OpenGroup) : Part := Part.choice (Part.row g.parts.reverse :: g.earlier).reverse

/-- The group as a part. -/
def close (g : OpenGroup) : Part :=
  let content := g.content
  ⟨match g.number with
    | some number => group number content.expression
    | none => content.expression, content.nesting + 1⟩

/-- Repeats the last part; there must be one. -/
def repeatLast? (g : OpenGroup) (least : Nat) (most : Option Nat) : Option OpenGroup :=
  match g.parts with
  | last :: parts =>
    (Part.within? ⟨repeated least most last.expression, last.nesting + 1⟩).map fun part =>
      { g with parts := part :: parts }
  | [] => none

end OpenGroup

/-- What has been read: the groups that are open, the innermost first, the number of groups with numbers, and the
names of groups. -/
structure Draft where
  innermost : OpenGroup := { number := none }
  outer : List OpenGroup := []
  groups : Nat := 0
  names : List String := []

namespace Draft

/-- Adds a part to the innermost group. -/
def add (d : Draft) (part : Part) : Draft := { d with innermost := d.innermost.add part }

/-- Opens a group without a number. -/
def openPlain (d : Draft) : Draft := { d with innermost := { number := none }, outer := d.innermost :: d.outer }

/-- Opens a group with the next number. -/
def openNumbered (d : Draft) : Draft :=
  { d with innermost := { number := some (d.groups + 1) }, outer := d.innermost :: d.outer, groups := d.groups + 1 }

/-- Closes the innermost group. -/
def close? (d : Draft) : Option Draft :=
  match d.outer with
  | [] => none
  | parent :: outer =>
    d.innermost.close.within?.map fun part => { d with innermost := parent.add part, outer }

/-- The expression that was read, when all groups are closed. -/
def finish? (d : Draft) : Option Part := if d.outer.isEmpty then d.innermost.content.within? else none

end Draft

/-- A character of the name of a group. -/
def isNameChar (c : Char) : Bool := c == '_' || c == '.' || c == '[' || c == ']' || Text.isAlphanumeric c

/-- Whether a text names a group; a name starts with a letter or `_`. -/
def isName (cs : List Char) : Bool :=
  cs.all isNameChar && cs.head?.any fun c =>
    c == '_' || (Text.isAlphanumeric c && !CharSet.digits.contains c)

/-- Opens a group with a name, after the angle bracket. -/
def openNamed? (d : Draft) (cs : List Char) : Option (Draft × List Char) :=
  let name := cs.takeWhile (· != '>')
  let text := String.ofList name
  if name.length = cs.length || !isName name || d.names.contains text then none
  else some ({ d.openNumbered with names := text :: d.names }, cs.drop (name.length + 1))

/-- Opens a group after its parenthesis. -/
def openGroup? (d : Draft) : List Char → Option (Draft × List Char)
  | '?' :: ':' :: rest => some (d.openPlain, rest)
  | '?' :: 'P' :: '<' :: rest => openNamed? d rest
  | '?' :: '<' :: rest => openNamed? d rest
  | '?' :: _ => none
  | rest => some (d.openNumbered, rest)

/-- Reads what stands at the start of a text. -/
def readPart? (d : Draft) (c : Char) (rest : List Char) : Option (Draft × List Char) :=
  if startsRepetition c then
    (readRepetition? (c :: rest)).bind fun (least, most, rest) =>
      (d.innermost.repeatLast? least most).map fun innermost =>
        ({ d with innermost }, if rest.head? = some '?' then rest.drop 1 else rest)
  else match c with
  | '(' => openGroup? d rest
  | ')' => d.close?.map fun d => (d, rest)
  | '|' => some ({ d with innermost := d.innermost.next }, rest)
  | '^' => some (d.add (.plain (look .start)), rest)
  | '$' => some (d.add (.plain (look .stop)), rest)
  | '.' => some (d.add (.plain (set .notLineFeed)), rest)
  | '[' => (readClass? rest).map fun (part, rest) => (d.add ⟨ofSet part.set, part.nesting⟩, rest)
  | '\\' =>
    (readEscape? rest).map fun
      | (.char c, rest) => (d.add (.plain (literal [c])), rest)
      | (.set s, rest) => (d.add (.plain (ofSet s)), rest)
      | (.look condition, rest) => (d.add (.plain (look condition)), rest)
  | c => some (d.add (.plain (literal [c])), rest)

/-- Reads parts up to the end. The allowance bounds their number; the length of the text is enough. -/
def readParts? (d : Draft) : Nat → List Char → Option Part
  | _, [] => d.finish?
  | 0, _ :: _ => none
  | allowance + 1, c :: rest => (readPart? d c rest).bind fun (d, rest) => readParts? d allowance rest

/-- Reads a regular expression. -/
def read? (s : String) : Option Regex :=
  (readParts? {} s.length s.toList).bind fun part =>
    if part.expression.isWithinLimit then some part.expression else none

end DocumentaryCredit.Regex

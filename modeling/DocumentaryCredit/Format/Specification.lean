/-
Specifications of field formats, such as `3!a15d` or `[/34x]\n4*35x`, and their reading as formats.

A specification is read from left to right as a row of items: brackets, separators and components. The items
are put together by a `Draft`, which knows the separator that still waits for its component and the group that
is still open. Every refusal names the position and the text at which the reading stopped.
-/
import DocumentaryCredit.Format

namespace DocumentaryCredit

/-- Why a specification cannot be read. -/
inductive FormatFault where
  | empty
  | unexpectedCharacter
  | nestedGroup
  | unclosedGroup
  | unbalancedGroup
  | emptyGroup
  | danglingSeparator
  | consecutiveSeparators
  | leadingLineBreak
  | unknownDate
  | lengthOutOfRange
  | zeroLength
  | missingCharset
  | missingWidth
  | missingCount
  | fixedLines
  | decimalLines
deriving DecidableEq

/-- The explanation of a fault. -/
def FormatFault.toText : FormatFault → String
  | empty => "empty format specification"
  | unexpectedCharacter => "unexpected character"
  | nestedGroup => "nested optional groups are not supported"
  | unclosedGroup => "unclosed optional group"
  | unbalancedGroup => "unbalanced ']'"
  | emptyGroup => "empty optional group"
  | danglingSeparator => "separator must be followed by a component"
  | consecutiveSeparators => "consecutive separators"
  | leadingLineBreak => "format cannot open with a line break"
  | unknownDate => "expected YYMMDD or YYYYMMDD"
  | lengthOutOfRange => "length out of range"
  | zeroLength => "length must be positive"
  | missingCharset => "expected character class (n, a, c, d, x, z)"
  | missingWidth => "expected line width after '*'"
  | missingCount => "expected line count after '*'"
  | fixedLines => "repeated lines cannot be fixed length"
  | decimalLines => "decimal components cannot span lines"

/-- A fault and the place where it was found. -/
structure FormatError where
  /-- The text of the specification from the place of the fault on. -/
  token : String
  /-- The number of characters before it. -/
  position : Nat
  fault : FormatFault
deriving DecidableEq

/-- The message of a format error. -/
def FormatError.toText (e : FormatError) : String :=
  "invalid format token '" ++ e.token ++ "' at position " ++ toString e.position ++ ": " ++ e.fault.toText

namespace Format

/-! ## Reading one component -/

/-- A fault within an item, and how many characters of it are shown. -/
structure Snag where
  shown : Nat
  fault : FormatFault

/-- A component without its separator and group. -/
structure Shape where
  extent : Extent
  charset : Charset
  minLength : Nat
  maxLength : Nat
  lines : Option Nat
deriving DecidableEq

/-- Reads the number at index `i`, from 1 to 65535; the answer has the index after its digits. -/
def scanNumber (cs : List Char) (i : Nat) : Except Snag (Nat × Nat) :=
  let digits := (cs.drop i).takeWhile Text.isDigit
  let stop := i + digits.length
  let n := Text.digitsValue digits
  if n > Text.maxNat16 then .error ⟨stop + 1, .lengthOutOfRange⟩
  else if n = 0 then .error ⟨stop, .zeroLength⟩
  else .ok (n, stop)

/-- Reads the letter of a character set at index `i`. -/
def scanCharset (cs : List Char) (i : Nat) : Except Snag (Charset × Nat) :=
  match cs[i]?.bind Charset.ofCode? with
  | some set => .ok (set, i + 1)
  | none => .error ⟨i + 1, .missingCharset⟩

/-- The shape of `lines` lines of at most `width` characters, which ends at index `i`. -/
def linesShape (set : Charset) (lines width i : Nat) : Except Snag (Shape × Nat) :=
  if set = .decimal then .error ⟨i, .decimalLines⟩ else .ok (⟨.repeated, set, 1, width, some lines⟩, i)

/-- Whether there is a digit at index `i`. -/
def digitAt (cs : List Char) (i : Nat) : Bool := cs[i]?.any Text.isDigit

/-- Reads a component that starts with a number: `6!n`, `35x`, `4*35x` or `35x*4`. -/
def scanLength (cs : List Char) : Except Snag (Shape × Nat) := do
  let (first, i) ← scanNumber cs 0
  if cs[i]? = some '*' then
    if !digitAt cs (i + 1) then .error ⟨i + 2, .missingWidth⟩
    else
      let (width, j) ← scanNumber cs (i + 1)
      if cs[j]? = some '!' then .error ⟨j + 1, .fixedLines⟩
      else
        let (set, k) ← scanCharset cs j
        linesShape set first width k
  else
    let fixed := cs[i]? = some '!'
    let (set, j) ← scanCharset cs (if fixed then i + 1 else i)
    if cs[j]? = some '*' then
      if fixed then .error ⟨j + 2, .fixedLines⟩
      else if !digitAt cs (j + 1) then .error ⟨j + 2, .missingCount⟩
      else
        let (lines, k) ← scanNumber cs (j + 1)
        linesShape set lines first k
    else if fixed then .ok (⟨.fixed, set, first, first, none⟩, j)
    else .ok (⟨.variable, set, 1, first, none⟩, j)

/-- Reads a date component. -/
def scanDate (cs : List Char) : Except Snag (Shape × Nat) :=
  if "YYYYMMDD".toList.isPrefixOf cs then .ok (⟨.fixed, .date, 8, 8, none⟩, 8)
  else if "YYMMDD".toList.isPrefixOf cs then .ok (⟨.fixed, .date, 6, 6, none⟩, 6)
  else .error ⟨8, .unknownDate⟩

/-! ## Items -/

/-- One item of a specification. -/
inductive Item where
  | openGroup
  | closeGroup
  | separator (s : Separator)
  | component (shape : Shape)

/-- Reads the item at the start of a text, which has `width` characters. -/
def scanItem : List Char → Except Snag (Item × Nat)
  | '[' :: _ => .ok (.openGroup, 1)
  | ']' :: _ => .ok (.closeGroup, 1)
  | '/' :: _ => .ok (.separator .slash, 1)
  | '\n' :: _ => .ok (.separator .newline, 1)
  | '\r' :: '\n' :: _ => .ok (.separator .newline, 2)
  | '\\' :: 'n' :: _ => .ok (.separator .newline, 2)
  | 'Y' :: rest => (scanDate ('Y' :: rest)).map fun (shape, width) => (.component shape, width)
  | c :: rest =>
    if Text.isDigit c then (scanLength (c :: rest)).map fun (shape, width) => (.component shape, width)
    else .error ⟨1, .unexpectedCharacter⟩
  | [] => .error ⟨0, .empty⟩

/-! ## Putting items together -/

/-- A group whose closing bracket has not been read. -/
structure OpenGroup where
  number : Nat
  position : Nat
  /-- The number of components before the group. -/
  first : Nat

/-- What has been read so far. -/
structure Draft where
  components : List Component := []
  /-- The separator that waits for its component, with its position. -/
  pending : Option (Separator × Nat) := none
  group : Option OpenGroup := none
  nextGroup : Nat := 0

namespace Draft

/-- The error of a separator that no component follows. -/
def dangling (pending : Separator × Nat) : FormatError := ⟨pending.1.toText, pending.2, .danglingSeparator⟩

/-- Opens a group. Group numbers have sixteen bits. -/
def openGroup (d : Draft) (position : Nat) : Except FormatError Draft :=
  if d.group.isSome then .error ⟨"[", position, .nestedGroup⟩
  else .ok { d with
    group := some ⟨d.nextGroup, position, d.components.length⟩
    nextGroup := (d.nextGroup + 1) % (Text.maxNat16 + 1) }

/-- Closes the open group, which must have a component. -/
def closeGroup (d : Draft) (position : Nat) : Except FormatError Draft :=
  match d.group with
  | none => .error ⟨"]", position, .unbalancedGroup⟩
  | some group =>
    if d.components.length = group.first then .error ⟨"]", position, .emptyGroup⟩
    else match d.pending with
      | some pending => .error (dangling pending)
      | none => .ok { d with group := none }

/-- Notes a separator for the component that follows it. -/
def addSeparator (d : Draft) (s : Separator) (position : Nat) : Except FormatError Draft :=
  if d.pending.isSome then .error ⟨s.toText, position, .consecutiveSeparators⟩
  else if s = .newline && d.components.isEmpty then .error ⟨s.toText, position, .leadingLineBreak⟩
  else .ok { d with pending := some (s, position) }

/-- Adds a component, with the separator before it and the group that is open. -/
def addComponent (d : Draft) (shape : Shape) : Draft :=
  { d with
    components := d.components ++ [{
      extent := shape.extent
      charset := shape.charset
      minLength := shape.minLength
      maxLength := shape.maxLength
      lines := shape.lines
      separator := (d.pending.map (·.1)).getD .none
      group := d.group.map (·.number) }]
    pending := none }

/-- Adds an item that stands at a position. -/
def add (d : Draft) (position : Nat) : Item → Except FormatError Draft
  | .openGroup => d.openGroup position
  | .closeGroup => d.closeGroup position
  | .separator s => d.addSeparator s position
  | .component shape => .ok (d.addComponent shape)

/-- The components, when no group is open and no separator waits. -/
def finish (d : Draft) : Except FormatError (List Component) :=
  match d.group, d.pending with
  | some group, _ => .error ⟨"[", group.position, .unclosedGroup⟩
  | none, some pending => .error (dangling pending)
  | none, none => .ok d.components

end Draft

/-- Reads items up to the end of the specification. -/
def readItems (d : Draft) (position : Nat) : List Char → Except FormatError (List Component)
  | [] => d.finish
  | c :: rest =>
    match scanItem (c :: rest) with
    | .error snag => .error ⟨String.ofList ((c :: rest).take snag.shown), position, snag.fault⟩
    | .ok (item, width) =>
      match d.add position item with
      | .error e => .error e
      | .ok d => readItems d (position + width) (rest.drop (width - 1))
termination_by cs => cs.length
decreasing_by simp only [List.length_drop, List.length_cons]; omega

/-- Reads a specification. -/
def compile (spec : String) : Except FormatError Format :=
  if spec.isEmpty then .error ⟨"", 0, .empty⟩
  else (readItems {} 0 spec.toList).map fun components => ⟨spec, components⟩

end Format

end DocumentaryCredit

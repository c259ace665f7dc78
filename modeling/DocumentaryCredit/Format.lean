/-
Field formats: what a field of a message looks like. A format is a row of components, and each component is
a run of characters of one set, or a few lines of them, with the separator that stands before it. Components
in brackets form an optional group, which a value has as a whole or not at all.
-/
import DocumentaryCredit.Format.Charset

namespace DocumentaryCredit

/-- How the length of a component is bounded. -/
inductive Extent where
  /-- Exactly the greatest length, as in `6!n`. -/
  | fixed
  /-- Between the least and the greatest length, as in `35x`. -/
  | variable
  /-- Up to a number of lines of the greatest length, as in `4*35x`. -/
  | repeated
deriving DecidableEq

instance : Named Extent where
  all := [.fixed, .variable, .repeated]
  name
    | .fixed => "fixed"
    | .variable => "variable"
    | .repeated => "repeated"

/-- What must stand before a component. -/
inductive Separator where
  | none
  /-- The character `/`. -/
  | slash
  /-- A line break; at the start of a value nothing. -/
  | newline
deriving DecidableEq

namespace Separator

/-- How a specification writes the separator. -/
def toText : Separator → String
  | none => ""
  | slash => "/"
  | newline => "\\n"

instance : Named Separator where
  all := [none, slash, newline]
  name
    | none => "none"
    | slash => "slash"
    | newline => "newline"

end Separator

/-- One component of a format. -/
structure Component where
  extent : Extent
  charset : Charset
  minLength : Nat
  maxLength : Nat
  /-- The greatest number of lines of a repeated component. -/
  lines : Option Nat
  separator : Separator
  /-- The number of the optional group that the component belongs to. -/
  group : Option Nat
deriving DecidableEq

namespace Component

/-- Whether the component belongs to an optional group. -/
def isOptional (c : Component) : Bool := c.group.isSome

/-- The greatest number of lines; one where nothing is said. -/
def lineLimit (c : Component) : Nat := c.lines.getD 1

/-- The component as a specification writes it, without its separator and brackets. -/
def pattern (c : Component) : String :=
  if c.charset = .date then (if c.maxLength = 8 then "YYYYMMDD" else "YYMMDD")
  else match c.extent with
    | .fixed => toString c.maxLength ++ "!" ++ c.charset.code
    | .variable => toString c.maxLength ++ c.charset.code
    | .repeated => toString c.lineLimit ++ "*" ++ toString c.maxLength ++ c.charset.code

/-- The component with its separator. -/
def toText (c : Component) : String := c.separator.toText ++ c.pattern

end Component

/-- A field format: the specification it was read from and its components in order. -/
structure Format where
  spec : String
  components : List Component
deriving DecidableEq

namespace Format

/-- The greatest number of lines of a value: each line break between components and each further line of a
repeated component adds one. -/
def maxLines (format : Format) : Nat :=
  format.components.foldl (fun lines c =>
    lines + (if c.separator = .newline then 1 else 0) + ((c.lines.getD 0) - 1)) 1

/-- Whether the format has more than one component. -/
def isComposite (format : Format) : Bool := format.components.length > 1

end Format

end DocumentaryCredit

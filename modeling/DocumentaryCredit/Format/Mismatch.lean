/-
Why a value does not have its format. A search for a match fails in many places; the one reported is the
furthest: of two failures the one at the later position of the value, then the one of the later component,
and of failures at the same place the first that was found (`Failure.further`).
-/
import DocumentaryCredit.Format

namespace DocumentaryCredit

/-- What a component asked for and did not find. -/
inductive Lack where
  | slash
  | lineBreak
  /-- A line of text that starts with a character it may not start with. -/
  | lineStart (c : Char)
  /-- A run of the right length that is not well formed. -/
  | wellFormedFixed (pattern : String) (charset : Charset)
  | exactly (length : Nat) (charset : Charset) (found : Nat)
  | wellFormed (charset : Charset)
  | upTo (length : Nat) (charset : Charset)
  | lines (lines width : Nat) (charset : Charset)
  /-- The value goes on after its last component. -/
  | endOfValue
  /-- The format has no components. -/
  | components
  /-- No component says what it asked for. -/
  | match
deriving DecidableEq

/-- The explanation of a lack. -/
def Lack.toText : Lack → String
  | slash => "expected '/'"
  | lineBreak => "expected line break"
  | lineStart c => "line may not start with '" ++ c.toString ++ "'"
  | wellFormedFixed pattern set => "'" ++ pattern ++ "' content is not a valid " ++ set.toText ++ " value"
  | exactly length set found =>
    "expected exactly " ++ toString length ++ " " ++ set.toText ++ " characters, found " ++ toString found
  | wellFormed set => "content is not a valid " ++ set.toText ++ " value"
  | upTo length set => "expected 1 to " ++ toString length ++ " " ++ set.toText ++ " characters, found none"
  | lines count width set =>
    "expected up to " ++ toString count ++ " lines of 1 to " ++ toString width ++ " " ++ set.toText ++ " characters"
  | endOfValue => "unexpected trailing content"
  | components => "format has no components"
  | «match» => "value does not match"

/-- A place at which a component failed. -/
structure Failure where
  /-- The index of the component. -/
  component : Nat
  /-- The number of characters of the value before the place. -/
  position : Nat
  lack : Lack
deriving DecidableEq

namespace Failure

/-- `b` lies further on than `a`. -/
def before (a b : Failure) : Bool :=
  a.position < b.position || (a.position == b.position && a.component < b.component)

/-- The further of two failures; the first when neither lies further. -/
def further : Option Failure → Option Failure → Option Failure
  | none, b => b
  | a, none => a
  | some a, some b => if a.before b then some b else some a

end Failure

/-- A value that does not have its format. -/
structure Mismatch where
  /-- The index of the component that failed. -/
  component : Nat
  /-- The component as the specification writes it. -/
  expected : String
  /-- The number of characters of the value before the place of the failure. -/
  position : Nat
  lack : Lack
deriving DecidableEq

/-- The message of a mismatch; components are counted from one. -/
def Mismatch.toText (m : Mismatch) : String :=
  "component " ++ toString (m.component + 1) ++ " (" ++ m.expected ++ ") at position " ++ toString m.position ++
    ": " ++ m.lack.toText

end DocumentaryCredit

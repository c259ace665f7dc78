/-
UTF-8: where a string of bytes stops being text. A byte string is text when it is a sequence of well-formed
characters (table 3-7 of the Unicode Standard); otherwise the position at which its first malformed
character starts is reported.
-/

namespace DocumentaryCredit.Text

/-- A byte between `low` and `high`. -/
def byteIn (low high : Nat) (b : UInt8) : Bool := low ≤ b.toNat && b.toNat ≤ high

/-- A byte that continues a character. -/
def isContinuation (b : UInt8) : Bool := byteIn 0x80 0xBF b

/-- The number of bytes of the well-formed character that the bytes start with. -/
def characterLength? : List UInt8 → Option Nat
  | [] => none
  | a :: rest =>
    if byteIn 0x00 0x7F a then some 1
    else match rest with
      | [] => none
      | b :: rest =>
        if byteIn 0xC2 0xDF a && isContinuation b then some 2
        else match rest with
          | [] => none
          | c :: rest =>
            if !isContinuation c then none
            else if a == 0xE0 && byteIn 0xA0 0xBF b then some 3
            else if (byteIn 0xE1 0xEC a || byteIn 0xEE 0xEF a) && isContinuation b then some 3
            else if a == 0xED && byteIn 0x80 0x9F b then some 3
            else match rest with
              | [] => none
              | d :: _ =>
                if !isContinuation d then none
                else if a == 0xF0 && byteIn 0x90 0xBF b then some 4
                else if byteIn 0xF1 0xF3 a && isContinuation b then some 4
                else if a == 0xF4 && byteIn 0x80 0x8F b then some 4
                else none

/-- The position of the first malformed character, where `skip` bytes still belong to the character before
and `position` counts the bytes passed. -/
def malformedFrom (position skip : Nat) : List UInt8 → Option Nat
  | [] => none
  | b :: rest =>
    match skip with
    | skip + 1 => malformedFrom (position + 1) skip rest
    | 0 =>
      match characterLength? (b :: rest) with
      | none => some position
      | some length => malformedFrom (position + 1) (length - 1) rest

/-- The position of the first malformed character of a byte string, if it is not text. -/
def malformedAt? (bytes : List UInt8) : Option Nat := malformedFrom 0 0 bytes

/-- The text that a string of bytes encodes. -/
def ofBytes? (bytes : List UInt8) : Option String := String.fromUTF8? ⟨bytes.toArray⟩

/-- The bytes that encode a text. -/
def toBytes (s : String) : List UInt8 := s.toUTF8.data.toList

end DocumentaryCredit.Text

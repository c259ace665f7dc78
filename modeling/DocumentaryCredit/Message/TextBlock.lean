/-
Text blocks: the written form of a message. A block opens with a line of its own, each field follows as its
tag between colons and its value, and the block ends with a line of its own; lines end with carriage return and
line feed. A value of several lines goes on over the lines that do not start with a colon.

There is no escape: a value can be read back when none of its lines but the first starts with a colon.
-/
import DocumentaryCredit.Message.Validation

namespace DocumentaryCredit

/-- Why a text is not a text block. Lines are counted from one, the opening line included. -/
inductive TextBlockError where
  | missingStart
  | missingEnd
  | malformedLine (line : Nat) (text : String)
  | duplicateTag (line : Nat) (tag : String)
deriving DecidableEq

/-- The message of the error. -/
def TextBlockError.toText : TextBlockError → String
  | missingStart => "message text must start with '\x7b4:'"
  | missingEnd => "message text must end with '-\x7d'"
  | malformedLine line text => "line " ++ toString line ++ ": expected ':TAG:' but found '" ++ text ++ "'"
  | duplicateTag line tag => "line " ++ toString line ++ ": tag " ++ tag ++ " appears more than once"

namespace TextBlock

/-- What a block opens with. -/
def opening : String := "\x7b4:"

/-- What a block ends with. -/
def ending : String := "-\x7d"

/-! ## Writing -/

/-- A value with CR LF for each of its line breaks. -/
def wireLines (value : String) : String :=
  String.ofList ((Text.normalizeLineBreaks value).toList.flatMap fun c => if c = '\n' then ['\r', '\n'] else [c])

/-- The line, or lines, of a field. -/
def entryText (entry : String × String) : String := ":" ++ entry.1 ++ ":" ++ wireLines entry.2

/-- The block of a list of fields. -/
def render (entries : List (String × String)) : String :=
  "\r\n".intercalate (opening :: entries.map entryText ++ [ending])

/-! ## Reading -/

/-- Two digits, and a capital letter or nothing. -/
def isTag : List Char → Bool
  | [a, b] => Text.isDigit a && Text.isDigit b
  | [a, b, c] => Text.isDigit a && Text.isDigit b && Text.isUpper c
  | _ => false

/-- The tag and the value of a line that starts a field. -/
def splitTag? : List Char → Option (String × String)
  | ':' :: rest =>
    let tag := rest.takeWhile (· != ':')
    match rest.drop tag.length with
    | ':' :: value => if isTag tag then some (String.ofList tag, String.ofList value) else none
    | _ => none
  | _ => none

/-- Reads lines from number `line` on, after the fields already read, the last of them first. -/
def readLines (read : List (String × String)) (line : Nat) :
    List (List Char) → Except TextBlockError (List (String × String))
  | [] => .ok read.reverse
  | cs :: rest =>
    match splitTag? cs with
    | some (tag, value) =>
      if read.any (·.1 == tag) then .error (.duplicateTag line tag)
      else readLines ((tag, value) :: read) (line + 1) rest
    | none =>
      match read with
      | (tag, value) :: earlier =>
        if cs.head? = some ':' then .error (.malformedLine line (String.ofList cs))
        else readLines ((tag, value ++ "\n" ++ String.ofList cs) :: earlier) (line + 1) rest
      | [] => .error (.malformedLine line (String.ofList cs))

/-- The fields of a block in the order in which they stand. -/
def entries (text : String) : Except TextBlockError (List (String × String)) :=
  match Text.stripStart? opening (Text.normalizeLineBreaks (Text.trim text)) with
  | none => .error .missingStart
  | some rest =>
    match Text.stripEnd? ending rest with
    | none => .error .missingEnd
    | some body =>
      let body := (Text.stripStart? "\n" body).getD body
      let body := (Text.stripEnd? "\n" body).getD body
      if body.isEmpty then .ok []
      else readLines [] 2 (Text.splitWhere (· == '\n') body.toList)

/-- The fields of a block by tag. -/
def read (text : String) : Except TextBlockError FieldValues := (entries text).map TextMap.ofList

end TextBlock

/-! ## Construction -/

/-- The fields of a message that its schema has, in the order of the schema. -/
def Schema.entries (schema : Schema) (values : FieldValues) : List (String × String) :=
  schema.fields.filterMap fun f => (values.get? f.tag).map fun value => (f.tag, value)

/-- The text block of a message. -/
def Schema.serialize (schema : Schema) (values : FieldValues) : String := TextBlock.render (schema.entries values)

/-- A message that has been built. -/
structure ConstructedMessage where
  messageType : String
  text : String
  /-- The number of fields of the message. -/
  fieldCount : Nat
  /-- The number of fields that the schema has. -/
  totalFields : Nat
deriving DecidableEq

/-- The outcome of building a message. -/
inductive Construction where
  | constructed (message : ConstructedMessage)
  | rejected (result : MessageResult)
deriving DecidableEq

/-- Builds a message from values that are valid. -/
def Schema.construct (schema : Schema) (values : FieldValues) : Compiling FieldFormatError Construction := do
  let result ← schema.validate values
  if !result.isValid then return .rejected result
  else
    let entries := schema.entries (normalizeValues values)
    return .constructed ⟨schema.messageType, TextBlock.render entries, entries.length, schema.fields.length⟩

end DocumentaryCredit

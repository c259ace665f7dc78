/-
Message schemas: the fields of a message type in their order, with the format of each and the rules that its
values keep beyond the format.
-/
import DocumentaryCredit.Named
import DocumentaryCredit.Regex.Reader
import DocumentaryCredit.Regex.Search
import DocumentaryCredit.TextMap

namespace DocumentaryCredit

/-- A regular expression with the text it was read from. -/
structure Pattern where
  text : String
  expression : Regex
deriving DecidableEq

namespace Pattern

/-- The pattern of a text, if that is a regular expression. -/
def ofText? (text : String) : Option Pattern := (Regex.read? text).map (Pattern.mk text)

/-- Whether the pattern is found in a value. -/
def isIn (p : Pattern) (value : String) : Bool := p.expression.isIn value

end Pattern

/-! ## Rules -/

/-- The relation that a field has to another field of its message. -/
inductive Relation where
  /-- Where this field is, the other must be too. -/
  | requires
  /-- This field and the other are not used together. -/
  | excludedBy
  /-- The date of this field is not before the other's. -/
  | dateNotBefore
deriving DecidableEq

instance : Named Relation where
  all := [.requires, .excludedBy, .dateNotBefore]
  name
    | .requires => "requires"
    | .excludedBy => "excluded_by"
    | .dateNotBefore => "date_not_before"

/-- A rule that ties a field to another one. -/
structure CrossFieldRule where
  relation : Relation
  otherTag : String
deriving DecidableEq

/-- The kinds of rules. -/
inductive RuleKind where
  | length
  | pattern
  | date
  | crossField
deriving DecidableEq

instance : Named RuleKind where
  all := [.length, .pattern, .date, .crossField]
  name
    | .length => "length"
    | .pattern => "pattern"
    | .date => "date"
    | .crossField => "cross_field"

/-- A rule that the values of a field keep. -/
inductive FieldRule where
  /-- The number of characters, line breaks left out, lies between two bounds. -/
  | length (min max : Nat)
  /-- The pattern is found in the value. -/
  | pattern (p : Pattern)
  /-- A component of the value names a day of the calendar. -/
  | date (component : Nat)
  | crossField (rule : CrossFieldRule)
deriving DecidableEq

/-- The rule as it is shown to the user. -/
def CrossFieldRule.toText (rule : CrossFieldRule) : String := Named.name rule.relation ++ " " ++ rule.otherTag

namespace FieldRule

/-- The kind of a rule. -/
def kind : FieldRule → RuleKind
  | length .. => .length
  | pattern _ => .pattern
  | date _ => .date
  | crossField _ => .crossField

/-- The rule as it is shown to the user; components are counted from one. -/
def toText : FieldRule → String
  | length min max => "length " ++ toString min ++ "..=" ++ toString max
  | pattern p => "pattern " ++ p.text
  | date component => "date in component " ++ toString (component + 1)
  | crossField rule => rule.toText

end FieldRule

/-- How tables and documents spell the names of kinds: without white space around them, in small letters and
with `_` for the given characters. -/
def canonicalName (spaces : List Char) (s : String) : String :=
  String.ofList (((Text.asciiLower (Text.trim s)).toList).map fun c => if spaces.contains c then '_' else c)

/-- Reads the name of a kind of rule, or answers the name that is not known. -/
def RuleKind.read (s : String) : Except String RuleKind :=
  let name := canonicalName ['-'] s
  match Named.read? name with
  | some kind => .ok kind
  | none => .error name

/-- Reads the name of a relation, or answers the name of the rule that is not known. -/
def Relation.read (s : String) : Except String Relation :=
  let name := canonicalName ['-'] s
  match Named.read? name with
  | some relation => .ok relation
  | none => .error ("cross_field:" ++ name)

/-! ## Fields and schemas -/

/-- The definition of one field of a message type. -/
structure FieldDefinition where
  tag : String
  name : String
  /-- The specification of the field's format. -/
  formatSpec : String
  isMandatory : Bool
  /-- The place of the field within its message. -/
  sequence : Nat
  /-- The only values that the field may have, compared with the canonical segment. -/
  allowedValues : Option TextSet
  maxOccurrences : Nat
  rules : List FieldRule
deriving DecidableEq

/-- The rules that tie the field to others, in order. -/
def FieldDefinition.crossFieldRules (d : FieldDefinition) : List CrossFieldRule :=
  d.rules.filterMap fun
    | .crossField rule => some rule
    | _ => none

/-- The component that carries the date of the field: that of its first date rule, else the first one. -/
def FieldDefinition.dateComponent (d : FieldDefinition) : Nat :=
  (d.rules.findSome? fun
    | .date component => some component
    | _ => none).getD 0

/-- The fields of one message type. -/
structure Schema where
  /-- The code of the message type, such as `700`. -/
  messageType : String
  name : String
  version : String
  /-- The fields in the order of their sequence numbers. -/
  fields : List FieldDefinition
deriving DecidableEq

namespace Schema

/-- The field of a tag, in either case of its letter. -/
def field? (schema : Schema) (tag : String) : Option FieldDefinition :=
  schema.fields.find? fun f => Text.equalIgnoringCase f.tag tag

/-- The tags of the mandatory fields. -/
def mandatoryTags (schema : Schema) : List String := (schema.fields.filter (·.isMandatory)).map (·.tag)

end Schema

/-- The code of a message type as a request names it: without white space around it and without `MT`. -/
def normalizeMessageType (code : String) : String :=
  let trimmed := Text.trim code
  let stripped := ((Text.stripStart? "MT" trimmed).orElse fun _ => Text.stripStart? "mt" trimmed).getD trimmed
  Text.trim stripped

end DocumentaryCredit

/-
The JSON forms of schemas, rules and the results of validation.
-/
import DocumentaryCredit.Json.Record
import DocumentaryCredit.Message.TextBlock

namespace DocumentaryCredit

/-! ## Rules -/

/-- Reads a pattern. -/
def Pattern.ofJson? (j : Json) : Option Pattern := (Json.text? j).bind Pattern.ofText?

namespace CrossFieldRule

/-- Reads the relation of a rule and its other tag. -/
def ofJson? (j : Json) : Option CrossFieldRule := do
  let r ← j.record? ["relation", "other_tag"]
  return ⟨← r.required "relation" Json.named?, ← r.required "other_tag" Json.text?⟩

end CrossFieldRule

namespace FieldRule

/-- The part of a rule that says its kind, which is a text, and the rest of it. -/
def splitKind? : Json → Option (RuleKind × Json)
  | .object members =>
    match members.filter (·.1 == "kind") with
    | [(_, .text kind)] => (Named.read? kind).map fun kind => (kind, .object (members.filter (·.1 != "kind")))
    | _ => none
  | .array (.text kind :: rest) => (Named.read? kind).map fun kind => (kind, .array rest)
  | _ => none

/-- Reads a rule. -/
def ofJson? (j : Json) : Option FieldRule := do
  let (kind, rest) ← splitKind? j
  match kind with
  | .length =>
    let r ← rest.record? ["min", "max"]
    return .length (← r.required "min" (Json.nat? Text.maxNat64)) (← r.required "max" (Json.nat? Text.maxNat64))
  | .pattern =>
    let r ← rest.record? ["pattern"]
    return .pattern (← r.required "pattern" Pattern.ofJson?)
  | .date =>
    let r ← rest.record? ["component"]
    return .date (← r.required "component" (Json.nat? Text.maxNat64))
  | .crossField => return .crossField (← CrossFieldRule.ofJson? rest)

/-- The JSON form of a rule. -/
def toJson (rule : FieldRule) : Json :=
  .object (("kind", Json.named rule.kind) :: match rule with
    | length min max => [("min", .nat min), ("max", .nat max)]
    | pattern p => [("pattern", .text p.text)]
    | date component => [("component", .nat component)]
    | crossField cross => [("relation", Json.named cross.relation), ("other_tag", .text cross.otherTag)])

end FieldRule

/-! ## Schemas -/

namespace FieldDefinition

/-- Reads the definition of a field. -/
def ofJson? (j : Json) : Option FieldDefinition := do
  let r ← j.record?
    ["tag", "name", "format_spec", "is_mandatory", "sequence", "allowed_values", "max_occurrences", "rules"]
  return {
    tag := ← r.required "tag" Json.text?
    name := ← r.required "name" Json.text?
    formatSpec := ← r.required "format_spec" Json.text?
    isMandatory := ← r.required "is_mandatory" Json.bool?
    sequence := ← r.required "sequence" (Json.nat? Text.maxNat32)
    allowedValues :=
      (← r.withDefault "allowed_values" none (Json.option? (Json.list? Json.text?))).map TextSet.ofList
    maxOccurrences := ← r.withDefault "max_occurrences" 1 (Json.nat? Text.maxNat32)
    rules := ← r.withDefault "rules" [] (Json.list? FieldRule.ofJson?) }

/-- The JSON form of the definition of a field. -/
def toJson (d : FieldDefinition) : Json :=
  .object ([
    ("tag", .text d.tag),
    ("name", .text d.name),
    ("format_spec", .text d.formatSpec),
    ("is_mandatory", .bool d.isMandatory),
    ("sequence", .nat d.sequence)]
    ++ (d.allowedValues.map fun allowed => ("allowed_values", Json.texts allowed.elements)).toList
    ++ [("max_occurrences", .nat d.maxOccurrences)]
    ++ if d.rules.isEmpty then [] else [("rules", Json.list FieldRule.toJson d.rules)])

end FieldDefinition

namespace Schema

/-- Reads a schema. -/
def ofJson? (j : Json) : Option Schema := do
  let r ← j.record? ["message_type", "name", "version", "fields"]
  return {
    messageType := ← r.required "message_type" Json.text?
    name := ← r.required "name" Json.text?
    version := ← r.required "version" Json.text?
    fields := ← r.required "fields" (Json.list? FieldDefinition.ofJson?) }

/-- The JSON form of a schema. -/
def toJson (schema : Schema) : Json := .object [
  ("message_type", .text schema.messageType),
  ("name", .text schema.name),
  ("version", .text schema.version),
  ("fields", .list FieldDefinition.toJson schema.fields)]

end Schema

/-! ## Results -/

/-- The members for those of a list that are present. -/
def Json.present (members : List (String × Option String)) : List (String × Json) :=
  members.filterMap fun (name, value) => value.map fun s => (name, .text s)

/-- The JSON form of the result of a field. -/
def FieldResult.toJson (r : FieldResult) : Json :=
  .object ([("tag", .text r.tag), ("valid", .bool r.isValid)] ++ match r.failure with
    | none => []
    | some failure =>
      [("error_kind", Json.named failure.kind), ("message", .text (failure.message r.tag))]
        ++ Json.present [("expected", failure.expected), ("actual", failure.actual)])

/-- The members of the JSON form of the result of a message. -/
def MessageResult.members (r : MessageResult) : List (String × Json) := [
  ("message_type", .text r.messageType),
  ("is_valid", .bool r.isValid),
  ("field_results", .list FieldResult.toJson r.results),
  ("missing_mandatory", .texts r.missingMandatory.elements)]

/-- The JSON form of the result of a message. -/
def MessageResult.toJson (r : MessageResult) : Json := .object r.members

/-- The JSON form of the values of a message. -/
def FieldValues.toJson (values : FieldValues) : Json :=
  .object (values.entries.map fun (tag, value) => (tag, .text value))

/-- Reads the values of a message. -/
def FieldValues.ofJson? (j : Json) : Option FieldValues := Json.map? Json.text? j

/-- The JSON form of the outcome of building a message. -/
def Construction.toJson : Construction → Json
  | constructed message => .object [
    ("outcome", .text "constructed"),
    ("message_type_code", .text message.messageType),
    ("serialized_text", .text message.text),
    ("field_count", .nat message.fieldCount),
    ("total_fields", .nat message.totalFields)]
  | rejected result => .object (("outcome", .text "rejected") :: result.members)

end DocumentaryCredit

/-
The JSON forms of formats.
-/
import DocumentaryCredit.Format
import DocumentaryCredit.Json.Record

namespace DocumentaryCredit

namespace Component

/-- Reads a component. -/
def ofJson? (j : Json) : Option Component := do
  let r ← j.record? ["kind", "char_class", "min_len", "max_len", "line_count", "separator", "group"]
  return {
    extent := ← r.required "kind" Json.named?
    charset := ← r.required "char_class" Json.named?
    minLength := ← r.required "min_len" (Json.nat? Text.maxNat16)
    maxLength := ← r.required "max_len" (Json.nat? Text.maxNat16)
    lines := ← r.optional "line_count" (Json.nat? Text.maxNat16)
    separator := ← r.required "separator" Json.named?
    group := ← r.optional "group" (Json.nat? Text.maxNat16) }

/-- The JSON form of a component. -/
def toJson (c : Component) : Json := .object [
  ("kind", Json.named c.extent),
  ("char_class", Json.named c.charset),
  ("min_len", .nat c.minLength),
  ("max_len", .nat c.maxLength),
  ("line_count", .option .nat c.lines),
  ("separator", Json.named c.separator),
  ("group", .option .nat c.group)]

end Component

namespace Format

/-- Reads a format. -/
def ofJson? (j : Json) : Option Format := do
  let r ← j.record? ["spec", "components"]
  return ⟨← r.required "spec" Json.text?, ← r.required "components" (Json.list? Component.ofJson?)⟩

/-- The JSON form of a format. -/
def toJson (format : Format) : Json :=
  .object [("spec", .text format.spec), ("components", .list Component.toJson format.components)]

end Format

end DocumentaryCredit

/-
The settings of the checker, which users keep in a TOML file. Every setting has a default, and settings that the
checker does not know are refused. What is given on the command line goes before the file.
-/
import DocumentaryCredit.Interchange.Presentation
import DocumentaryCredit.Standards.RuleBook

namespace DocumentaryCredit

/-- The settings of the checker. -/
structure Settings where
  /-- The directory of the rule book. -/
  standardsDirectory : Option String := none
  /-- Which differences between texts are only variants. -/
  comparison : Equivalence := {}
  /-- Disagreements are judged by the articles of the rule book, when it has some. -/
  usesStandardsTable : Bool := true
deriving DecidableEq

namespace Settings

/-- The name of the file that is read when no other is given. -/
def defaultFile : String := "lc-checker.toml"

/-- Reads whether the articles of the rule book are used. -/
def classificationOfJson? (j : Json) : Option Bool := do
  let r ← j.recordWith? ["use_standards_table"] [] true
  r.withDefault "use_standards_table" true Json.bool?

/-- Reads settings. -/
def ofJson? (j : Json) : Option Settings := do
  let r ← j.recordWith? ["standards_dir", "comparison", "classification"] [] true
  return {
    standardsDirectory := ← r.withDefault "standards_dir" none (Json.option? Json.text?)
    comparison := ← r.withDefault "comparison" {} Equivalence.ofJson?
    usesStandardsTable := ← r.withDefault "classification" true classificationOfJson? }

/-- The JSON form of settings. -/
def toJson (s : Settings) : Json := .object [
  ("standards_dir", .option .text s.standardsDirectory),
  ("comparison", s.comparison.toJson),
  ("classification", .object [("use_standards_table", .bool s.usesStandardsTable)])]

/-- Reads settings from the text of their file. -/
def read? (s : String) : Option Settings := (Toml.read? s).bind ofJson?

/-- The directory of the rule book: the one given with the command, that of the settings, or the default. -/
def directory (s : Settings) (given : Option String) (default : String) : String :=
  (given.orElse fun _ => s.standardsDirectory).getD default

/-- The table by which disagreements are judged: that of the rule book, or the built-in one where the settings
say so or the rule book has no articles. -/
def ruleTable (s : Settings) (book : RuleBook) : RuleTable :=
  if s.usesStandardsTable && !book.articles.isEmpty then book.ruleTable else .ucp600

end Settings

end DocumentaryCredit

/-
Formats that are compiled once. Whatever needs the format of a field asks the cache for it, so that the tables
of a rule book compile each specification once, however many fields share it.
-/
import DocumentaryCredit.Cache
import DocumentaryCredit.Format.Specification

namespace DocumentaryCredit

/-- The formats compiled so far, by their specifications. -/
abbrev FormatCache := Cache Format

/-- A computation that may compile formats and may fail; what it compiled before it failed stays compiled. -/
abbrev Compiling (ε α : Type) := ExceptT ε (StateM FormatCache) α

/-- The format of a specification, compiled on first use. -/
def FormatCache.getOrCompile (cache : FormatCache) (spec : String) : Except FormatError Format × FormatCache :=
  cache.obtain Format.compile spec

/-- The format of a specification, as a step of a computation with an error of its own. -/
def compiling {ε : Type} (onError : FormatError → ε) (spec : String) : Compiling ε Format := fun cache =>
  match cache.getOrCompile spec with
  | (.ok format, cache) => (.ok format, cache)
  | (.error e, cache) => (.error (onError e), cache)

end DocumentaryCredit

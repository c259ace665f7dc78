/-
What the checker logs. The level is asked for on the command line and holds for the checker's own parts; all
others only warn. `directives` is the filter that says so.
-/
import DocumentaryCredit.Named

namespace DocumentaryCredit

/-- The levels of log events, each of which includes the ones before it. -/
inductive LogLevel where
  | off
  | error
  | warn
  | info
  | debug
  | trace
deriving DecidableEq

namespace LogLevel

instance : Named LogLevel where
  all := [off, error, warn, info, debug, trace]
  name
    | off => "off"
    | error => "error"
    | warn => "warn"
    | info => "info"
    | debug => "debug"
    | trace => "trace"

/-- The level that is so many steps above the lowest; the highest from there on. -/
def ofRank (rank : Nat) : LogLevel := (Named.all[rank]?).getD trace

/-- The level after so many requests for more and for less, from warnings on. -/
def ofVerbosity (more less : Nat) : LogLevel := ofRank (2 + more - less)

/-- The parts of the checker that have the level. -/
def ownParts : List String :=
  ["lc_checker", "lc_cli", "lc_compare", "lc_format", "lc_model", "lc_standards", "lc_validate"]

/-- The filter of a level: warnings of everyone, and the level for the checker's own parts. -/
def directives (level : LogLevel) : String :=
  ",".intercalate (Named.name warn :: ownParts.map fun part => part ++ "=" ++ Named.name level)

end LogLevel

/-- The layouts of log events. -/
inductive LogFormat where
  | pretty
  | compact
  | json
deriving DecidableEq

instance : Named LogFormat where
  all := [.pretty, .compact, .json]
  name
    | .pretty => "pretty"
    | .compact => "compact"
    | .json => "json"

/-- What is logged, how, and where to. -/
structure Logging where
  level : LogLevel
  format : LogFormat
  /-- The file that events are added to; none for the standard error stream. -/
  file : Option String
deriving DecidableEq

end DocumentaryCredit

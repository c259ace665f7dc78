/-
Matching a value against a format: finding where each component lies in the value. The components are tried
in order, an optional group before its absence and the longest run first, and the first arrangement that uses
up the whole value is the answer; where there is none, the furthest failure is (`Mismatch`).

The search is written as a plain recursion over the blocks of a format. What a component and everything
after it do at a position depends on the position alone, so it is kept in a table (`Tabulated`) and the search
visits each component once for each position.
-/
import DocumentaryCredit.Format.Mismatch
import DocumentaryCredit.Tabulated

namespace DocumentaryCredit

/-- The characters of a value from `start` up to `stop`. -/
structure Span where
  start : Nat
  stop : Nat
deriving DecidableEq

namespace Span

/-- The text of a span. -/
def slice (span : Span) (cs : List Char) : List Char := (cs.drop span.start).take (span.stop - span.start)

end Span

/-! ## One component -/

namespace Component

/-- Where the run of a component starts, once its separator at `position` is passed. -/
def start? (c : Component) (value : List Char) (position : Nat) : Except Lack Nat :=
  match c.separator with
  | .none => .ok position
  | .slash => if value[position]? = some '/' then .ok (position + 1) else .error .slash
  | .newline =>
    if position = 0 then .ok 0
    else if value[position]? = some '\n' then .ok (position + 1) else .error .lineBreak

/-- The number of characters from `start` on that the component admits, up to its greatest length. -/
def runLength (c : Component) (value : List Char) (start : Nat) : Nat :=
  (((value.drop start).take c.maxLength).takeWhile c.charset.admits).length

/-- The character at `start`, when a line of text may not start with it: lines after the first may not start
with `:` or `-`, which start a field and end a block. -/
def badLineStart? (c : Component) (value : List Char) (start : Nat) : Option Char :=
  if c.charset.isText && start != 0 && value[start - 1]? == some '\n' then
    value[start]?.filter fun first => first == ':' || first == '-'
  else none

/-- Whether the run from `start` up to `stop` is well formed; a set without a rule for runs need not see it. -/
def admitsRun (c : Component) (value : List Char) (start stop : Nat) : Bool :=
  !c.charset.constrainsRuns || c.charset.admitsRun (Span.slice ⟨start, stop⟩ value)

theorem admitsRun_eq (c : Component) (value : List Char) (start stop : Nat) :
    c.admitsRun value start stop = c.charset.admitsRun (Span.slice ⟨start, stop⟩ value) := by
  unfold admitsRun
  cases h : c.charset.constrainsRuns with
  | false => simp [Charset.admitsRun_of_not_constrainsRuns h]
  | true => rfl

/-- What a component lacks after a run of `run` characters. -/
def lackAfter (c : Component) (run : Nat) : Lack :=
  match c.extent with
  | .fixed => if run ≥ c.maxLength then .wellFormedFixed c.pattern c.charset else .exactly c.maxLength c.charset run
  | .variable => if run > 0 then .wellFormed c.charset else .upTo c.maxLength c.charset
  | .repeated => .lines c.lineLimit c.maxLength c.charset

/-- The places where a component may end, in the order in which they are tried, and the place where it fails
by itself. -/
structure Ends where
  stops : List Nat
  failure : Option (Nat × Lack)

/-- The ends of the lines from `start` on: each line is the longest run from where it starts. `first` says
that no line has been read, `limit` is the number of lines that may still follow. -/
def lineEnds (c : Component) (value : List Char) (first : Bool) (start : Nat) : Nat → Ends
  | 0 => ⟨[], none⟩
  | limit + 1 =>
    let run := c.runLength value start
    if run = 0 then ⟨[], if first then some (start, c.lackAfter run) else none⟩
    else
      let stop := start + run
      if limit = 0 || value[stop]? != some '\n' then ⟨[stop], none⟩
      else match c.badLineStart? value (stop + 1) with
        | some bad => ⟨[stop], some (stop + 1, .lineStart bad)⟩
        | none =>
          let rest := c.lineEnds value false (stop + 1) limit
          ⟨rest.stops ++ [stop], rest.failure⟩

/-- The ends of a component whose run starts at `start`, the longest run first. -/
def ends (c : Component) (value : List Char) (start : Nat) : Ends :=
  match c.badLineStart? value start with
  | some bad => ⟨[], some (start, .lineStart bad)⟩
  | none =>
    let run := c.runLength value start
    match c.extent with
    | .fixed =>
      if run ≥ c.maxLength && c.admitsRun value start (start + c.maxLength) then ⟨[start + c.maxLength], none⟩
      else ⟨[], some (start + run, c.lackAfter run)⟩
    | .variable =>
      let lengths := (List.range' c.minLength (run + 1 - c.minLength)).reverse
      let stops := (lengths.map (start + ·)).filter (c.admitsRun value start)
      ⟨stops, if stops.isEmpty then some (start + run, c.lackAfter run) else none⟩
    | .repeated => c.lineEnds value true start c.lineLimit

end Component

/-! ## The search -/

/-- How a search ends: with the span of each component, none for those of an absent group, or without a
match, with the furthest failure on the way. -/
inductive Outcome where
  | found (spans : List (Option Span))
  | failed (furthest : Option Failure)

namespace Outcome

/-- An outcome with the span of one more component in front. -/
def prepend (spans : List (Option Span)) : Outcome → Outcome
  | found rest => found (spans ++ rest)
  | failed failure => failed failure

/-- The first match that a list of places leads to, after the failures met before. -/
def firstOf (next : Nat → Outcome) (span : Nat → Span) (met : Option Failure) : List Nat → Outcome
  | [] => failed met
  | stop :: stops =>
    match next stop with
    | found spans => found (some (span stop) :: spans)
    | failed failure => firstOf next span (Failure.further met failure) stops

/-- The first outcome, or the second when the first is no match. -/
def orElse (first : Outcome) (second : Unit → Outcome) : Outcome :=
  match first with
  | found spans => found spans
  | failed met =>
    match second () with
    | found spans => found spans
    | failed failure => failed (Failure.further met failure)

end Outcome

namespace Format

/-- Components that a value has all together or not at all. -/
structure Block where
  isOptional : Bool
  /-- The components with their indices in the format. -/
  components : List (Component × Nat)

/-- Puts a component in front of blocks: into the first of them when that is the rest of its group. -/
def addToBlocks (c : Component) (index : Nat) : List Block → List Block
  | [] => [⟨c.isOptional, [(c, index)]⟩]
  | block :: blocks =>
    let sameGroup := c.isOptional && match block.components with
      | (next, _) :: _ => next.group == c.group
      | [] => false
    if sameGroup then ⟨true, (c, index) :: block.components⟩ :: blocks
    else ⟨c.isOptional, [(c, index)]⟩ :: block :: blocks

/-- The blocks of a list of components: neighbours of one group form a block, and so does each component
outside groups. -/
def blocks (components : List Component) : List Block :=
  components.zipIdx.foldr (fun (c, index) rest => addToBlocks c index rest) []

/-- What a component does at a position, when `next` says what follows it. -/
def matchComponent (value : List Char) (c : Component) (index : Nat) (next : Nat → Outcome) (position : Nat) :
    Outcome :=
  match c.start? value position with
  | .error lack => .failed (some ⟨index, position, lack⟩)
  | .ok start =>
    let ends := c.ends value start
    Outcome.firstOf next (Span.mk start) (ends.failure.map fun (place, lack) => ⟨index, place, lack⟩) ends.stops

/-- What the components of a block do one after another. -/
def matchComponents (value : List Char) (next : Tabulated Outcome) : List (Component × Nat) → Tabulated Outcome
  | [] => next
  | (c, index) :: rest =>
    let after := matchComponents value next rest
    Tabulated.tabulate (value.length + 1) (matchComponent value c index after.get)

/-- What blocks do at the positions of a value. After the last block, of index `last`, nothing may be left. -/
def matchBlocks (value : List Char) (last : Nat) : List Block → Tabulated Outcome
  | [] => Tabulated.tabulate (value.length + 1) fun position =>
    if position = value.length then .found [] else .failed (some ⟨last, position, .endOfValue⟩)
  | block :: rest =>
    let after := matchBlocks value last rest
    let present := matchComponents value after block.components
    if block.isOptional then
      Tabulated.tabulate (value.length + 1) fun position =>
        (present.get position).orElse fun _ =>
          (after.get position).prepend (List.replicate block.components.length none)
    else present

/-- The span of each component in a value of the format; a skipped component of an optional group has none. -/
def matchSpans (format : Format) (value : String) : Except Mismatch (List (Option Span)) :=
  let cs := value.toList
  if format.components.isEmpty then .error ⟨0, format.spec, 0, .components⟩
  else
    match (matchBlocks cs (format.components.length - 1) (blocks format.components)).get 0 with
    | .found spans => .ok spans
    | .failed furthest =>
      let failure := furthest.getD ⟨0, 0, .match⟩
      .error ⟨failure.component, (format.components[failure.component]?.map Component.toText).getD "",
        failure.position, failure.lack⟩

/-- The text of a component of a matched value. -/
def segment? (value : String) (spans : List (Option Span)) (index : Nat) : Option String :=
  (spans[index]?.join).map fun span => String.ofList (span.slice value.toList)

end Format

end DocumentaryCredit

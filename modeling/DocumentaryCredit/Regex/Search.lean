/-
Searching a text for a regular expression. The expression is written out as a program of small instructions,
and the text is read once: at each place the instructions that can be reached there without reading are gathered,
those for a match that starts at this place included. The work is bounded by the length of the text times the
length of the program.
-/
import DocumentaryCredit.Regex

namespace DocumentaryCredit.Regex

/-- An instruction; others are named by their positions in the program. -/
inductive Instruction where
  /-- A match ends here. -/
  | accept
  /-- Reads a character of a set. -/
  | read (s : CharSet) (next : Nat)
  /-- Goes on at two places. -/
  | fork (first second : Nat)
  /-- Goes on where a condition holds. -/
  | require (condition : Look) (next : Nat)

/-- A program that is being written, from its end to its start: its instructions so far, and the one at which it
is entered. -/
structure Program where
  entry : Nat
  instructions : Array Instruction

namespace Program

/-- Puts an instruction in front of a program. -/
def enter (p : Program) (i : Instruction) : Program := ⟨p.instructions.size, p.instructions.push i⟩

/-- Puts an expression in front of a program. -/
def before (p : Program) : Regex → Program
  | empty => p
  | literal text => text.foldr (fun c p => p.enter (.read (CharSet.single c) p.entry)) p
  | set s => p.enter (.read s p.entry)
  | look condition => p.enter (.require condition p.entry)
  | group _ body => p.before body
  | sequence first rest => (p.before rest).before first
  | either first rest =>
    let exit := p.entry
    let ⟨second, code⟩ := p.before rest
    let ⟨entry, code⟩ := Program.before ⟨exit, code⟩ first
    Program.enter ⟨entry, code⟩ (.fork entry second)
  | times least most body =>
    let exit := p.entry
    match most with
    | some most =>
      let tail := Nat.repeat (fun q : Program =>
        let ⟨entry, code⟩ := q.before body
        Program.enter ⟨entry, code⟩ (.fork entry exit)) (most - least) p
      Nat.repeat (fun q : Program => q.before body) least tail
    | none =>
      let ⟨loop, code⟩ := p.enter (.fork exit exit)
      let ⟨entry, code⟩ := Program.before ⟨loop, code⟩ body
      let code := code.setIfInBounds loop (.fork entry exit)
      if least = 0 then ⟨loop, code⟩
      else Nat.repeat (fun q : Program => q.before body) (least - 1) ⟨entry, code⟩

end Program

/-- The program of an expression. -/
def program (r : Regex) : Program := Program.before ⟨0, #[.accept]⟩ r

/-- Whether a condition holds between a character and a text. -/
def Look.holds (before : Option Char) (text : List Char) (condition : Look) : Bool :=
  let wordBefore := before.any Text.isWordChar
  let wordAfter := text.head?.any Text.isWordChar
  match condition with
  | .start => before.isNone
  | .stop => text.isEmpty
  | .wordBoundary => wordBefore != wordAfter
  | .noWordBoundary => wordBefore == wordAfter
  | .wordStart => !wordBefore && wordAfter
  | .wordEnd => wordBefore && !wordAfter
  | .noWordBefore => !wordBefore
  | .noWordAfter => !wordAfter

/-- The instructions that read a character. -/
abbrev Readers := List (CharSet × Nat)

/-- Gathers the reading instructions that are reached from some instructions at a place, unless a match ends there.
`reached` holds the last place at which each instruction was reached. Each instruction is passed once and leads
to at most two more; the allowance bounds them. -/
def gather (code : Array Instruction) (place : Nat) (holds : Look → Bool) :
    Nat → List Nat → Array Nat → Readers → Option (Array Nat × Readers)
  | _, [], reached, readers => some (reached, readers)
  | 0, _ :: _, reached, readers => some (reached, readers)
  | allowance + 1, i :: more, reached, readers =>
    if reached.getD i 0 = place then gather code place holds allowance more reached readers
    else
      let reached := reached.setIfInBounds i place
      match code[i]? with
      | none => gather code place holds allowance more reached readers
      | some .accept => none
      | some (.read s next) => gather code place holds allowance more reached ((s, next) :: readers)
      | some (.fork first second) => gather code place holds allowance (first :: second :: more) reached readers
      | some (.require condition next) =>
        gather code place holds allowance (if holds condition then next :: more else more) reached readers

/-- Whether a match ends in a text after a character, or one starts there. Places are counted from 1. -/
def Program.isIn (p : Program) (before : Option Char) (place : Nat) (targets : List Nat) (reached : Array Nat)
    (text : List Char) : Bool :=
  let allowance := targets.length + 2 * p.instructions.size + 2
  match gather p.instructions place (Look.holds before text) allowance (p.entry :: targets) reached [] with
  | none => true
  | some (reached, readers) =>
    match text with
    | [] => false
    | c :: rest =>
      let targets := readers.filterMap fun (s, next) => if s.contains c then some next else none
      p.isIn (some c) (place + 1) targets reached rest

/-- Whether the expression matches somewhere in a text. -/
def isIn (r : Regex) (s : String) : Bool :=
  let p := r.program
  p.isIn none 1 [] (Array.replicate p.instructions.size 0) s.toList

end DocumentaryCredit.Regex

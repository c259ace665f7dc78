/-
The arguments of the two commands that write a message and read it. Where an option has its value behind it, the value
is any text that is not written as an option itself; the two commands refuse the others and paths that are empty, and
ask for nothing else.
-/
import DocumentaryCredit.CommandLine.Run
import DocumentaryCredit.Proofs.Computation

namespace DocumentaryCredit

/-! ## Options with their values -/

section

variable {forms : List OptionForm} {g : Given} {rest : List String}

/-- An option and its value. -/
theorem takeArguments_value {form : OptionForm} {option : String} (value : String) (hpending : g.pending = none)
    (hoption : option ≠ "--" ∧ isOptionForm option = true)
    (hform : g.addArgument forms option = .ok { g with pending := some form }) :
    takeArguments forms false g (option :: value :: rest) =
      if isOptionForm value then .error (.missingValue form.toText)
      else match ({ g with pending := some form } : Given).add form value with
        | .error e => .error e
        | .ok g => takeArguments forms false g rest := by
  rw [takeArguments, hpending]
  simp only [if_neg hoption.1, hoption.2, if_true, hform]
  rfl

/-- A word that stands last. -/
theorem takeArguments_word {word : String} (hpending : g.pending = none) (hword : isOptionForm word = false) :
    takeArguments forms false g [word] = .ok ({ g with words := g.words ++ [word] }, []) := by
  have hne : word ≠ "--" := by
    rintro rfl
    exact absurd hword (by decide +kernel)
  rw [takeArguments, hpending]
  simp only [if_neg hne, hword, Bool.false_eq_true, if_false]
  rw [takeArguments]

end

/-! ## Names of commands -/

/-- A command with none of the options that every command has but the one for the form of results. -/
def Invocation.plain (json : Bool) (command : Command) : Invocation where
  logging := ⟨.warn, .pretty, none⟩
  settingsFile := none
  standardsDirectory := none
  json := json
  command := command

/-- What stands before the name of a command. -/
def jsonArguments (json : Bool) : List String := if json then ["--json"] else []

/-- The option that stands before the name of a command. -/
def jsonGiven (json : Bool) : Given := if json then { options := [("json", "")] } else {}

theorem takeName_eq (json : Bool) {name : String} (hname : isOptionForm name = false) (rest : List String) :
    takeName (.version :: OptionForm.common) (jsonArguments json ++ name :: rest) =
      .ok (jsonGiven json, some (name, rest)) := by
  have hne : name ≠ "--" := by
    rintro rfl
    exact absurd hname (by decide)
  have hstop (g : Given) (hpending : g.pending = none) :
      takeArguments (.version :: OptionForm.common) true g (name :: rest) = .ok (g, name :: rest) := by
    rw [takeArguments, hpending]
    simp only [if_neg hne, hname, Bool.false_eq_true, if_false, if_true]
  have hjson : takeArguments (.version :: OptionForm.common) true {} ("--json" :: name :: rest) =
      takeArguments (.version :: OptionForm.common) true (jsonGiven true) (name :: rest) := by
    with_unfolding_all rfl
  cases json with
  | false =>
    rw [takeName, jsonArguments, if_neg (by decide), List.nil_append, hstop _ rfl]
    rfl
  | true =>
    rw [takeName, jsonArguments, if_pos rfl, List.singleton_append, hjson, hstop _ rfl]
    rfl

/-- What is asked for is the command behind its name. -/
theorem Request.read_eq (json : Bool) {name : String} (hname : isOptionForm name = false) (rest : List String) :
    Request.read (jsonArguments json ++ name :: rest) = (Command.read name rest).bind fun (inner, command) =>
      match command with
      | none => .ok .help
      | some command => (Invocation.ofGiven (jsonGiven json :: inner) command).map .run := by
  have hasks : (jsonGiven json).has .help = false ∧ (jsonGiven json).has .version = false := by
    cases json <;> decide
  rw [Request.read, takeName_eq json hname]
  simp only [bind, Except.bind, hasks, Bool.false_eq_true, if_false]
  rfl

/-! ## Writing a message -/

/-- The message type that a command is given. -/
def typeGiven (messageType : String) : Given := { options := [("message-type", messageType)] }

/-- The option for the message type. -/
theorem takeArguments_type {forms : List OptionForm} {messageType : String} {rest : List String}
    (hform : ({} : Given).addArgument forms "-t" = .ok { pending := some .messageType }) :
    takeArguments forms false {} ("-t" :: messageType :: rest) =
      if isOptionForm messageType then .error (.missingValue OptionForm.messageType.toText)
      else takeArguments forms false (typeGiven messageType) rest := by
  have hadd : ({ pending := some .messageType } : Given).add .messageType messageType =
      .ok (typeGiven messageType) := by
    with_unfolding_all rfl
  rw [takeArguments_value messageType rfl (by decide) hform, hadd]

section Construct

/-- The options of the command that writes a message. -/
abbrev constructForms : List OptionForm := [.messageType, .output] ++ OptionForm.common

/-- The options and the word of the command that writes a message. -/
def constructGiven (messageType output input : String) : Given where
  options := [("message-type", messageType), ("output", output)]
  words := [input]

/-- The arguments that have a message written to a file. -/
def constructArguments (json : Bool) (messageType output input : String) : List String :=
  jsonArguments json ++ ["construct", "-t", messageType, "-o", output, input]

variable (messageType output : String) {input : String} (hinput : isOptionForm input = false)

include hinput

theorem takeArguments_output : takeArguments constructForms false (typeGiven messageType) ["-o", output, input] =
    if isOptionForm output then .error (.missingValue OptionForm.output.toText)
    else if output.isEmpty then .error (.missingValue OptionForm.output.toText)
    else .ok (constructGiven messageType output input, []) := by
  have hform : (typeGiven messageType).addArgument constructForms "-o" =
      .ok { typeGiven messageType with pending := some .output } := by
    with_unfolding_all rfl
  have hadd : ({ typeGiven messageType with pending := some .output } : Given).add .output output =
      if output.isEmpty then .error (.missingValue OptionForm.output.toText)
      else .ok { options := [("message-type", messageType), ("output", output)] } := by
    with_unfolding_all rfl
  rw [takeArguments_value output rfl (by decide) hform, hadd]
  split
  · rfl
  cases output.isEmpty with
  | true => rfl
  | false => exact takeArguments_word rfl hinput

theorem takeAll_construct : takeAll constructForms ["-t", messageType, "-o", output, input] =
    if isOptionForm messageType then .error (.missingValue OptionForm.messageType.toText)
    else if isOptionForm output then .error (.missingValue OptionForm.output.toText)
    else if output.isEmpty then .error (.missingValue OptionForm.output.toText)
    else .ok (constructGiven messageType output input) := by
  rw [takeAll, takeArguments_type (by with_unfolding_all rfl), takeArguments_output messageType output hinput]
  split
  · rfl
  split
  · rfl
  split
  · rfl
  · rfl

omit hinput in
theorem ofConstruct_constructGiven : Command.ofConstruct (constructGiven messageType output input) =
    if input.isEmpty then .error (.missingValue "<INPUT>") else .ok (.construct input messageType (some output)) := by
  have hpath : (constructGiven messageType output input).onePath "<INPUT>" [.messageType] =
      if input.isEmpty then .error (.missingValue "<INPUT>") else .ok input := by
    with_unfolding_all rfl
  rw [Command.ofConstruct, hpath]
  cases input.isEmpty with
  | true => rfl
  | false => with_unfolding_all rfl

/-- A message is written if its type and its file are given as values, and neither path is empty. -/
theorem read_constructArguments (json : Bool) : Request.read (constructArguments json messageType output input) =
    if isOptionForm messageType then .error (.missingValue OptionForm.messageType.toText)
    else if isOptionForm output then .error (.missingValue OptionForm.output.toText)
    else if output.isEmpty then .error (.missingValue OptionForm.output.toText)
    else if input.isEmpty then .error (.missingValue "<INPUT>")
    else .ok (.run (.plain json (.construct input messageType (some output)))) := by
  have hread : Command.read "construct" ["-t", messageType, "-o", output, input] =
      (takeAll constructForms ["-t", messageType, "-o", output, input]).bind fun g =>
        if g.has .help then .ok ([g], none) else (Command.ofConstruct g).map fun command => ([g], some command) := rfl
  have hhelp : (constructGiven messageType output input).has .help = false := by with_unfolding_all rfl
  have hgiven (command : Command) : Invocation.ofGiven [jsonGiven json, constructGiven messageType output input] command =
      .ok (.plain json command) := by
    cases json <;> with_unfolding_all rfl
  rw [constructArguments, Request.read_eq json (by decide), hread, takeAll_construct messageType output hinput]
  split
  · rfl
  split
  · rfl
  split
  · rfl
  simp only [Except.bind, hhelp, Bool.false_eq_true, if_false, ofConstruct_constructGiven]
  cases input.isEmpty with
  | true => rfl
  | false => simp only [Bool.false_eq_true, if_false, Except.map, hgiven]

end Construct

/-! ## Reading a message -/

section Parse

/-- The options of the command that reads a message. -/
abbrev parseForms : List OptionForm := [.messageType] ++ OptionForm.common

/-- The option and the word of the command that reads a message. -/
def parseGiven (messageType path : String) : Given := { typeGiven messageType with words := [path] }

/-- The arguments that have a file read as a message, the result being shown as JSON. -/
def parseArguments (messageType path : String) : List String := ["--json", "parse", "-t", messageType, path]

/-- A file is read as a message if its path is not empty. -/
theorem read_parseArguments {messageType path : String} (htype : isOptionForm messageType = false)
    (hpath : isOptionForm path = false) (hne : path ≠ "") :
    Request.read (parseArguments messageType path) = .ok (.run (.plain true (.parse path messageType))) := by
  have hread : Command.read "parse" ["-t", messageType, path] =
      (takeAll parseForms ["-t", messageType, path]).bind fun g =>
        if g.has .help then .ok ([g], none) else (Command.ofParse g).map fun command => ([g], some command) := rfl
  have hall : takeAll parseForms ["-t", messageType, path] = .ok (parseGiven messageType path) := by
    rw [takeAll, takeArguments_type (by with_unfolding_all rfl), if_neg (by simp [htype]), takeArguments_word rfl hpath]
    rfl
  have hhelp : (parseGiven messageType path).has .help = false := by with_unfolding_all rfl
  have hcommand : Command.ofParse (parseGiven messageType path) = .ok (.parse path messageType) := by
    have honly : (parseGiven messageType path).onePath "<MESSAGE>" [.messageType] =
        if path.isEmpty then .error (.missingValue "<MESSAGE>") else .ok path := by
      with_unfolding_all rfl
    rw [Command.ofParse, honly, if_neg (by simpa using hne)]
    with_unfolding_all rfl
  have hgiven : Invocation.ofGiven [jsonGiven true, parseGiven messageType path] (.parse path messageType) =
      .ok (.plain true (.parse path messageType)) := by
    with_unfolding_all rfl
  have heq : parseArguments messageType path = jsonArguments true ++ ["parse", "-t", messageType, path] := rfl
  rw [heq, Request.read_eq true (by decide), hread, hall]
  simp only [Except.bind, hhelp, Bool.false_eq_true, if_false, hcommand, Except.map, hgiven]

end Parse

end DocumentaryCredit

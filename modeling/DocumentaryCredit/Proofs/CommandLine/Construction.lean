/-
A message that is built and written to a file, and the run that reads it again, both under the bundled rule book. A run
that builds a message and does not fail leaves exactly the text block of its values in the file, and the next run reads
these values from it; a run that rejects its values or fails leaves all files as they were. The file must not be the one
with the settings, which every run reads before anything else.
-/
import DocumentaryCredit.Proofs.CommandLine.Arguments
import DocumentaryCredit.Proofs.Message.Answers
import DocumentaryCredit.Proofs.Message.ReadableTags
import DocumentaryCredit.Proofs.Standards.Bundled

namespace DocumentaryCredit

/-! ## What a message is read as -/

/-- A message that is built from values is the text block of their normal form, and is read as that with a valid result,
whatever formats were compiled before. -/
theorem RuleBook.WellFormed.exists_parse {book : RuleBook} (hbook : book.WellFormed)
    (htags : ∀ code schema, book.schemas.get? code = some schema →
      ∀ f ∈ schema.fields, TextBlock.isTag f.tag.toList = true) {messageType : String} {values : FieldValues}
    {formats formats' : FormatCache} {message : ConstructedMessage} (hformats : formats.Reachable)
    (h : (Validator.mk book).construct messageType values formats = (.ok (.constructed message), formats')) :
    ∃ schema, book.schemas.get? (normalizeMessageType messageType) = some schema ∧
      message.text = schema.serialize (normalizeValues values) ∧ ∀ later : FormatCache, later.Reachable →
        ∃ validation : MessageResult, validation.isValid = true ∧
          ((Validator.mk book).parse messageType message.text later).1 = .ok ⟨normalizeValues values, validation⟩ := by
  obtain ⟨schema, hget, hconstruct⟩ := Validator.exists_of_construct h
  have hschema := hbook.schemas _ _ hget
  obtain ⟨result, hresult, hvalid, htext, -⟩ := Schema.exists_of_construct hconstruct
  refine ⟨schema, hget, htext, fun later hlater => ?_⟩
  have hread : TextBlock.read message.text = .ok (normalizeValues values) := by
    rw [htext]
    exact Schema.read_render hschema.nodup (htags _ _ hget) (isNormal_normalizeValues values)
      (hschema.accepts_of_construct hconstruct).1
  obtain ⟨fields, hfields, hanswers⟩ := (Validator.dependable_of_wellFormed (v := ⟨book⟩) hbook hlater).answers _ _ hget
  refine ⟨_, ?_, hanswers.parse _ _ hread⟩
  -- The values have the result that they had when the message was built.
  obtain ⟨after, hvalidate⟩ := Schema.exists_validate_eq hfields hschema hformats values
  rw [hresult] at hvalidate
  cases hvalidate
  rwa [normalizeValues_normalizeValues]

/-! ## Commands -/

namespace Workplace

variable {w : Workplace} {input output messageType : String} {shelf : Shelf} {summary : RuleBookSummary}

theorem ask_eq_ok_iff {α : Type} {onError : ValidatorError → RunError}
    {question : Validator → Compiling ValidatorError α} {a : α} : ask shelf onError question = .ok a ↔
      (question ⟨shelf.current⟩ shelf.formats).1 = .ok a := by
  have hask : ask shelf onError question = (question ⟨shelf.current⟩ shelf.formats).1.mapError onError := rfl
  rw [hask]
  cases (question ⟨shelf.current⟩ shelf.formats).1 <;> simp [Except.mapError]

theorem readText_eq_ok_iff {path text : String} : w.readText path = .ok text ↔ w.tree.readText path = .ok text := by
  unfold readText
  cases w.tree.readText path <;> simp [Except.mapError]

theorem readJson_eq_ok_iff {α : Type} {path : String} {ofJson? : Json → Option α} {a : α} :
    w.readJson path ofJson? = .ok a ↔
      ∃ text, w.tree.readText path = .ok text ∧ (Json.read? text).bind ofJson? = some a := by
  rw [readJson, Except.bind_eq_ok_iff]
  refine exists_congr fun text => and_congr readText_eq_ok_iff ?_
  split
  · next hread => simp [hread]
  · next hread => simp [hread]

/-- A message that is built of the values in a file, and written to another one. -/
structure Writes (w : Workplace) (shelf : Shelf) (input messageType output : String) (values : FieldValues)
    (message : ConstructedMessage) (after : FileTree) : Prop where
  read : ∃ text, w.tree.readText input = .ok text ∧ (Json.read? text).bind FieldValues.ofJson? = some values
  built : ((Validator.mk shelf.current).construct messageType values shelf.formats).1 = .ok (.constructed message)
  written : w.tree.write output (Text.toBytes message.text) = .ok after

/-- A command that builds a message has written it, or has rejected its values and written nothing. -/
theorem status_of_construct (hload : w.loadStandards = .ok (shelf, summary)) {result : RunResult}
    (h : w.construct input messageType (some output) = .ok result) :
    result.status = 1 ∧ result.tree = w.tree ∨ result.status = 0 ∧
      ∃ values message, w.Writes shelf input messageType output values message result.tree := by
  obtain ⟨⟨_, _⟩, hload', h⟩ := Except.bind_eq_ok_iff.1 h
  obtain ⟨rfl, rfl⟩ := Prod.mk.inj (Except.ok.inj (hload.symm.trans hload'))
  obtain ⟨values, hvalues, h⟩ := Except.bind_eq_ok_iff.1 h
  obtain ⟨built, hbuilt, h⟩ := Except.bind_eq_ok_iff.1 h
  cases built with
  | rejected found =>
    cases h
    exact .inl ⟨rfl, rfl⟩
  | constructed message =>
    obtain ⟨after, hafter, h⟩ := Except.bind_eq_ok_iff.1 h
    cases h
    have hwritten : w.tree.write output (Text.toBytes message.text) = .ok after := by
      cases hwrite : w.tree.write output (Text.toBytes message.text) <;> simp_all [Except.mapError]
    exact .inr ⟨rfl, values, message, readJson_eq_ok_iff.1 hvalues, ask_eq_ok_iff.1 hbuilt, hwritten⟩

theorem exists_construct_of_writes (hload : w.loadStandards = .ok (shelf, summary)) {values : FieldValues}
    {message : ConstructedMessage} {after : FileTree}
    (h : w.Writes shelf input messageType output values message after) :
    ∃ result, w.construct input messageType (some output) = .ok result ∧ result.status = 0 ∧ result.tree = after := by
  have hask : ask shelf .message (fun v => v.construct messageType values) = .ok (.constructed message) :=
    ask_eq_ok_iff.2 h.built
  simp only [construct, hload, bind, Except.bind, readJson_eq_ok_iff.2 h.read, hask, h.written, Except.mapError]
  exact ⟨_, rfl, rfl, rfl⟩

theorem loadStandards_of_load (hdirectory : w.directory = w.installation.directory)
    (h : Shelf.load w.installation.files w.installation.directory = .ok (shelf, summary)) :
    w.loadStandards = .ok (shelf, summary) := by
  simp only [loadStandards, hdirectory, if_true, h, Except.mapError]

theorem parse_eq {path text : String} {parsed : ParsedMessage} (hload : w.loadStandards = .ok (shelf, summary))
    (htext : w.tree.readText path = .ok text)
    (hparse : ((Validator.mk shelf.current).parse messageType text shelf.formats).1 = .ok parsed) :
    w.parse path messageType = .ok (w.finish parsed.validation.isValid parsed.toJson parsed.display) := by
  have hask : ask shelf (.parse path) (fun v => v.parse messageType text) = .ok parsed := ask_eq_ok_iff.2 hparse
  simp only [parse, hload, bind, Except.bind, readText_eq_ok_iff.2 htext, hask]
  rfl

end Workplace

/-! ## Settings -/

namespace Toml

/-- No statement starts with a brace. -/
theorem read?_eq_none {s : String} (h : s.toList.head? = some '{') : read? s = none := by
  obtain ⟨rest, hs⟩ := List.head?_eq_some_iff.1 h
  have hspace : isSpace '{' = false := by decide
  have hkeyChar : isKeyChar '{' = false := by decide
  have hquote : isQuote '{' = false := by decide
  have hkey : readKey? (rest.length + 1) ('{' :: rest) = none := by
    have hname : readName? (skipSpace ('{' :: rest)) = none := by
      simp [skipSpace, hspace, readName?, hquote, hkeyChar]
    rw [readKey?, hname]
    rfl
  have hlines : skipLines (rest.length + 1) ('{' :: rest) = '{' :: rest := by
    simp [skipLines, skipSpace, hspace, skipComment, lineBreak?]
  have hstatement : readStatement? ('{' :: rest) = none := by
    rw [readStatement?]
    · rw [List.length_cons, hkey]
      rfl
    · simp
    · simp
  have hstatements : readStatements? (rest.length + 1 + 1) ('{' :: rest) = none := by
    rw [readStatements?, List.length_cons, hlines]
    simp only [hstatement]
    rfl
  have hmark : ('{' : Char).toNat ≠ 0xFEFF := by decide
  simp only [read?, hs, if_neg hmark, List.length_cons, hstatements]
  rfl

end Toml

/-- A text block is none of settings. -/
theorem Settings.read?_render (entries : List (String × String)) : read? (TextBlock.render entries) = none := by
  have hhead : (TextBlock.render entries).toList.head? = some '{' := by
    rw [TextBlock.render, String.toList_intercalate, List.cons_append, List.map_cons, TextBlock.intercalate_cons]
    rfl
  rw [read?, Toml.read?_eq_none hhead]
  rfl

/-! ## Runs -/

/-- What a command works on that is given no options. -/
def Workplace.plain (installation : Installation) (tree : FileTree) (settings : Settings) (json : Bool) : Workplace :=
  ⟨installation, tree, settings, settings.directory none installation.directory, json⟩

theorem Invocation.run_plain (json : Bool) (command : Command) (installation : Installation) (tree : FileTree) :
    (plain json command).run installation tree =
      match readSettings tree none with
      | .error e => .failed tree e
      | .ok settings =>
        match (Workplace.plain installation tree settings json).run command with
        | .error e => .failed tree e
        | .ok result => result := by
  have hlog : openLog tree (plain json command).logging = .ok tree := rfl
  simp only [run, hlog]
  cases hsettings : readSettings tree none with
  | error e =>
    have hnone : readSettings tree (plain json command).settingsFile = .error e := hsettings
    simp only [hnone, bind, Except.bind]
  | ok settings =>
    have hsome : readSettings tree (plain json command).settingsFile = .ok settings := hsettings
    have hwork : Workplace.run ⟨installation, tree, settings,
        settings.directory (plain json command).standardsDirectory installation.directory, (plain json command).json⟩
        (plain json command).command = (Workplace.plain installation tree settings json).run command := rfl
    simp only [hsome, hwork, bind, Except.bind]
    cases (Workplace.plain installation tree settings json).run command with
    | error e => rfl
    | ok result => rfl

theorem runArguments_construct_eq {json : Bool} {messageType output input : String} {installation : Installation}
    {tree : FileTree} {settings : Settings} {result : RunResult} (htype : isOptionForm messageType = false)
    (houtput : isOptionForm output = false) (houtputNe : output ≠ "") (hinput : isOptionForm input = false)
    (hinputNe : input ≠ "") (hsettings : readSettings tree none = .ok settings)
    (hcommand : (Workplace.plain installation tree settings json).construct input messageType (some output) =
      .ok result) :
    runArguments (constructArguments json messageType output input) installation tree = result := by
  rw [runArguments, read_constructArguments messageType output hinput, if_neg (by simp [htype]),
    if_neg (by simp [houtput]), if_neg (by simpa using houtputNe), if_neg (by simpa using hinputNe)]
  simp only [Invocation.run_plain, hsettings, Workplace.run, hcommand]

/-- A run that is to write a message fails and leaves the files as they are, or the command ends. -/
theorem runArguments_construct (json : Bool) (messageType output : String) {input : String}
    (hinput : isOptionForm input = false) (installation : Installation) (tree : FileTree) :
    ∃ result, runArguments (constructArguments json messageType output input) installation tree = result ∧
      (result.status = 2 ∧ result.tree = tree ∨ isOptionForm messageType = false ∧ isOptionForm output = false ∧
        ∃ settings, readSettings tree none = .ok settings ∧
          (Workplace.plain installation tree settings json).construct input messageType (some output) = .ok result) := by
  refine ⟨_, rfl, ?_⟩
  rw [runArguments, read_constructArguments messageType output hinput]
  by_cases htype : isOptionForm messageType = true
  · rw [if_pos htype]
    exact .inl ⟨rfl, rfl⟩
  by_cases houtput : isOptionForm output = true
  · rw [if_neg htype, if_pos houtput]
    exact .inl ⟨rfl, rfl⟩
  by_cases hnone : output.isEmpty = true
  · rw [if_neg htype, if_neg houtput, if_pos hnone]
    exact .inl ⟨rfl, rfl⟩
  by_cases hblank : input.isEmpty = true
  · rw [if_neg htype, if_neg houtput, if_neg hnone, if_pos hblank]
    exact .inl ⟨rfl, rfl⟩
  rw [if_neg htype, if_neg houtput, if_neg hnone, if_neg hblank]
  simp only [Invocation.run_plain]
  cases hsettings : readSettings tree none with
  | error e => exact .inl ⟨rfl, rfl⟩
  | ok settings =>
    simp only
    cases hrun : (Workplace.plain installation tree settings json).run (.construct input messageType (some output)) with
    | error e => exact .inl ⟨rfl, rfl⟩
    | ok result => exact .inr ⟨by simpa using htype, by simpa using houtput, settings, rfl, hrun⟩

/-- The settings are the same when another file has been written. -/
theorem readSettings_put {tree : FileTree} {path : String} (hne : Path.place path ≠ Path.place Settings.defaultFile)
    (bytes : List UInt8) : readSettings (tree.put path bytes) none = readSettings tree none := by
  cases hread : tree.read Settings.defaultFile with
  | ok found =>
    have hread' : (tree.put path bytes).read Settings.defaultFile = .ok found :=
      FileTree.read_put_of_ne hread hne.symm bytes
    simp only [readSettings, FileTree.isFile, hread, hread', Except.toOption, Option.isSome, if_true, Option.orElse]
    simp only [FileTree.readText, hread, hread']
  | error e =>
    have hread' : ∃ e', (tree.put path bytes).read Settings.defaultFile = .error e' := by
      cases hput : (tree.put path bytes).read Settings.defaultFile with
      | error e' => exact ⟨e', rfl⟩
      | ok found =>
        rw [(FileTree.read_put_eq_ok_iff hne.symm bytes).1 hput] at hread
        cases hread
    obtain ⟨e', hread'⟩ := hread'
    simp only [readSettings, FileTree.isFile, hread, hread']
    rfl

/-- A file that holds a message is read by the next run. -/
theorem runArguments_parse {installation : Installation} {tree : FileTree} {settings : Settings} {shelf : Shelf}
    {summary : RuleBookSummary} {messageType path text : String} {parsed : ParsedMessage}
    (htype : isOptionForm messageType = false) (hpath : isOptionForm path = false)
    (hsettings : readSettings tree none = .ok settings)
    (hload : (Workplace.plain installation tree settings true).loadStandards = .ok (shelf, summary))
    (hread : tree.read path = .ok (Text.toBytes text))
    (hparse : ((Validator.mk shelf.current).parse messageType text shelf.formats).1 = .ok parsed) :
    runArguments (parseArguments messageType path) installation tree =
      ⟨if parsed.validation.isValid then 0 else 1, [.json parsed.toJson], [], tree⟩ := by
  have hrun := Workplace.parse_eq (w := .plain installation tree settings true) hload (FileTree.readText_of_read hread)
    hparse
  rw [runArguments, read_parseArguments htype hpath (FileTree.read_eq_ok_iff.1 hread).1]
  simp only [Invocation.run_plain, hsettings, Workplace.run, hrun]
  rfl

/-- No file is read as a message when it stands where the settings are looked for and holds none. -/
theorem runArguments_parse_settings {installation : Installation} {tree : FileTree} {messageType path : String}
    {text : String} (htype : isOptionForm messageType = false) (hpath : isOptionForm path = false)
    (hplace : Path.place path = Path.place Settings.defaultFile) (hread : tree.read path = .ok (Text.toBytes text))
    (hnone : Settings.read? text = none) :
    runArguments (parseArguments messageType path) installation tree =
      .failed tree (.settings Settings.defaultFile) := by
  obtain ⟨hne, hfile, -⟩ := FileTree.read_eq_ok_iff.1 hread
  have hdefault : tree.read Settings.defaultFile = .ok (Text.toBytes text) :=
    FileTree.read_eq_ok_iff.2 ⟨by decide, by rw [← hplace, hfile], by decide⟩
  have hsettings : readSettings tree none = .error (.settings Settings.defaultFile) := by
    simp only [readSettings, FileTree.isFile, hdefault, Except.toOption, Option.isSome, if_true, Option.orElse,
      FileTree.readText_of_read hdefault, Except.mapError, bind, Except.bind, hnone]
  rw [runArguments, read_parseArguments htype hpath hne]
  simp only [Invocation.run_plain, hsettings]

/-! ## The bundled rule book -/

/-- A rule book in use with whose messages nothing can go wrong. -/
structure Shelf.Readable (shelf : Shelf) : Prop where
  wellFormed : shelf.current.WellFormed
  tags : ∀ code schema, shelf.current.schemas.get? code = some schema →
    ∀ f ∈ schema.fields, TextBlock.isTag f.tag.toList = true
  formats : shelf.formats.Reachable

/-- A checker that comes with the bundled rule book. -/
def Installation.bundled : Installation := ⟨bundledDirectory, Bundled.tree⟩

theorem Bundled.Evaluation.exists_shelf (e : Evaluation) : ∃ shelf summary,
    Shelf.load tree bundledDirectory = .ok (shelf, summary) ∧ shelf.Readable ∧
      ∀ m ∈ tables.messages, shelf.current.schemas.get? m.messageType = some (schemaOf m) := by
  obtain ⟨book, summary, formats, hload, hschemas⟩ := e.exists_load
  have hrun : (RuleBook.load tree bundledDirectory |>.run |>.run {}) = (.ok (book, summary), formats) := hload
  refine ⟨⟨book, formats⟩, summary, by rw [Shelf.load, hrun], ⟨RuleBook.wellFormed_of_load .empty hload, ?_,
    ((RuleBook.steady_load tree bundledDirectory).answer_eq .empty hload).2⟩, fun m hm => ?_⟩
  · intro code schema hget f hf
    obtain ⟨m, -, -, rfl⟩ := (hschemas code schema).1 hget
    exact e.isTag_of_mem hf
  · rw [← e.schema_eq hm]
    exact (hschemas _ _).2 ⟨m, hm, rfl, rfl⟩

/-- What the files are after the message of the values in one of them has been written to another one. -/
structure Shelf.Written (shelf : Shelf) (messageType input output : String) (before after : FileTree)
    (values : FieldValues) : Prop where
  read : ∃ text, before.readText input = .ok text ∧ (Json.read? text).bind FieldValues.ofJson? = some values
  written : ∃ schema, shelf.current.schemas.get? (normalizeMessageType messageType) = some schema ∧
    after.read output = .ok (Text.toBytes (schema.serialize (normalizeValues values)))
  others : ∀ parts, parts ≠ Path.place output → after.file? parts = before.file? parts

/-- The values of the message. -/
def freeFormatValues : FieldValues := .ofList [("20", "LC1"), ("79", "A\nB")]

/-- The values as they stand in a file. -/
def freeFormatJson : String := "\x7b\"20\":\"LC1\",\"79\":\"A\\nB\"\x7d"

/-- The file with the values. -/
def freeFormatInput : FileTree where
  files := [(["in.json"], Text.toBytes freeFormatJson)]

/-- The text block of the message. -/
def freeFormatText : String := "\x7b4:\r\n:20:LC1\r\n:79:A\r\nB\r\n-\x7d"

theorem readText_freeFormatInput : freeFormatInput.readText "in.json" = .ok freeFormatJson := by
  have hplace : Path.place "in.json" = ["in.json"] := by decide
  refine FileTree.readText_of_read (FileTree.read_eq_ok_iff.2 ⟨by decide, ?_, by decide⟩)
  rw [hplace]
  exact FileTree.file?_of_mem (List.nodup_singleton _) (.head _)

theorem read?_freeFormatJson : (Json.read? freeFormatJson).bind FieldValues.ofJson? = some freeFormatValues := by
  have htext : freeFormatJson.toList = _ := String.toList_ofList
  rw [Json.read?, htext]
  decide +kernel

theorem readSettings_freeFormatInput : readSettings freeFormatInput none = .ok {} := by decide

theorem directory_freeFormatInput (settings : Settings) (h : readSettings freeFormatInput none = .ok settings) :
    settings.directory none bundledDirectory = bundledDirectory := by
  obtain rfl := Except.ok.inj (readSettings_freeFormatInput.symm.trans h)
  rfl

/-- The message is written to any file that can be written. -/
theorem Bundled.Evaluation.exists_run (e : Evaluation) {output : String} (houtput : isOptionForm output = false)
    (hwrite : ∀ bytes, ∃ after, freeFormatInput.write output bytes = .ok after) :
    ∃ run, runArguments (constructArguments false "799" output "in.json") .bundled freeFormatInput = run ∧
      run.status = 0 ∧ run.tree.read output = .ok (Text.toBytes freeFormatText) := by
  obtain ⟨shelf, summary, hload, hshelf, hschemas⟩ := e.exists_shelf
  let message : ConstructedMessage := ⟨"799", freeFormatText, 2, 3⟩
  have hschema : ((schemaOf tables.messages[2]).construct freeFormatValues {}).1 = .ok (.constructed message) := by
    decide +kernel
  have hcode : normalizeMessageType "799" = "799" := by decide
  have hget : shelf.current.schemas.get? (normalizeMessageType "799") = some (schemaOf tables.messages[2]) := by
    rw [hcode]
    exact hschemas tables.messages[2] (by simp [tables])
  have hbuilt : ((Validator.mk shelf.current).construct "799" freeFormatValues shelf.formats).1 =
      .ok (.constructed message) := by
    rw [(Validator.steady_construct ⟨shelf.current⟩ "799" freeFormatValues shelf.formats hshelf.formats).1,
      Validator.construct_of_some hget]
    exact congrArg Prod.fst (Validator.compilingFields_eq_ok_iff.2 (Prod.ext hschema rfl))
  obtain ⟨after, hafter⟩ := hwrite (Text.toBytes message.text)
  have hloads : (Workplace.plain .bundled freeFormatInput {} false).loadStandards = .ok (shelf, summary) :=
    Workplace.loadStandards_of_load rfl hload
  have hwrites : (Workplace.plain .bundled freeFormatInput {} false).Writes shelf "in.json" "799" output
      freeFormatValues message after :=
    ⟨⟨_, readText_freeFormatInput, read?_freeFormatJson⟩, hbuilt, hafter⟩
  obtain ⟨run, hrun, hstatus, htree⟩ := Workplace.exists_construct_of_writes hloads hwrites
  obtain ⟨-, hwritten⟩ := FileTree.eq_put_of_write hafter
  have houtputNe : output ≠ "" := (FileTree.read_eq_ok_iff.1 hwritten).1
  refine ⟨run, ?_, hstatus, htree ▸ hwritten⟩
  exact runArguments_construct_eq (by decide) houtput houtputNe (by decide +kernel) (by decide)
    readSettings_freeFormatInput hrun

end DocumentaryCredit

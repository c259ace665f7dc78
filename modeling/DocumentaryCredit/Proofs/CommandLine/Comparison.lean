/-
A run of the checker that compares documents. Where no severity is named every discrepancy fails the run, so that
its status is 0 exactly when the documents of each set are consistent.
-/
import DocumentaryCredit.CommandLine.Run
import DocumentaryCredit.Proofs.Computation
import DocumentaryCredit.Proofs.Presentation.Consistency
import DocumentaryCredit.Proofs.Text

namespace DocumentaryCredit

/-! ## Options that are not given -/

/-- The option of that name is neither given nor waiting for its value. -/
structure Given.Lacks (g : Given) (name : String) : Prop where
  options : ∀ o ∈ g.options, o.1 ≠ name
  pending : ∀ form, g.pending = some form → form.name ≠ name

namespace Given

variable {g g' : Given} {name : String} {form : OptionForm}

theorem Lacks.empty : ({} : Given).Lacks name := ⟨by simp, by simp⟩

theorem Lacks.value? (h : g.Lacks form.name) : g.value? form = none := by
  simp only [Given.value?, Option.map_eq_none_iff, List.find?_eq_none, beq_iff_eq]
  exact h.options

theorem Lacks.add {value : String} (h : g.Lacks name) (hne : form.name ≠ name) (hadd : g.add form value = .ok g') :
    g'.Lacks name := by
  unfold Given.add at hadd
  split at hadd
  · cases hadd
  split at hadd
  · cases hadd
  cases hadd
  refine ⟨fun o ho => ?_, by simp⟩
  rcases List.mem_append.1 ho with ho | ho
  · exact h.options o ho
  · obtain rfl := List.mem_singleton.1 ho
    exact hne

theorem Lacks.addWritten {value : Option String} (h : g.Lacks name) (hne : form.name ≠ name)
    (hadd : g.addWritten form value = .ok g') : g'.Lacks name := by
  unfold Given.addWritten at hadd
  split at hadd
  · split at hadd
    · exact h.add hne hadd
    · cases hadd
  · split at hadd
    · cases hadd
      exact ⟨h.options, fun f hf => by cases hf; exact hne⟩
    · exact h.add hne hadd

theorem Lacks.addLetters {forms : List OptionForm}
    (hletters : ∀ form ∈ forms, form.letter.isSome = true → form.name ≠ name) :
    ∀ {letters : List Char} {g : Given}, g.Lacks name → g.addLetters forms letters = .ok g' → g'.Lacks name
  | [], g, h, hadd => by
    cases hadd
    exact h
  | c :: rest, g, h, hadd => by
    unfold Given.addLetters at hadd
    split at hadd
    · cases hadd
    next form hform =>
    have hletter : form.letter = some c := by simpa using List.find?_some hform
    have hne := hletters form (List.mem_of_find?_eq_some hform) (by simp [hletter])
    split at hadd
    · exact h.addWritten hne hadd
    · split at hadd
      · cases hadd
      · next hflag => exact Lacks.addLetters hletters (h.addWritten hne hflag) hadd

/-- An argument adds an option of a name only when it spells the name out, or by the letter of the option. -/
theorem Lacks.addArgument {forms : List OptionForm} {argument : String} (h : g.Lacks name)
    (hletters : ∀ form ∈ forms, form.letter.isSome = true → form.name ≠ name)
    (hargument : ¬ ("--" ++ name).toList <+: argument.toList) (hadd : g.addArgument forms argument = .ok g') :
    g'.Lacks name := by
  unfold Given.addArgument at hadd
  split at hadd
  · exact Lacks.addLetters hletters h hadd
  next long hlong =>
  simp only at hadd
  split at hadd
  · cases hadd
  next form hform =>
  refine h.addWritten (fun heq => hargument ?_) hadd
  have hname : form.name = String.ofList (long.toList.takeWhile (· != '=')) := by simpa using List.find?_some hform
  rw [Text.stripStart?_eq_some_iff.1 hlong, ← heq, hname, String.toList_append, List.prefix_append_right_inj,
    String.toList_ofList]
  exact List.takeWhile_prefix _

end Given

/-- What is left of the arguments is among them, and an option that none of them spells out is not given. -/
theorem takeArguments_lacks {forms : List OptionForm} {stops : Bool} {name : String}
    (hletters : ∀ form ∈ forms, form.letter.isSome = true → form.name ≠ name) :
    ∀ {arguments : List String} {g g' : Given} {rest : List String}, g.Lacks name →
      (∀ a ∈ arguments, ¬ ("--" ++ name).toList <+: a.toList) →
        takeArguments forms stops g arguments = .ok (g', rest) → g'.Lacks name ∧ ∀ a ∈ rest, a ∈ arguments
  | [], g, g', rest, hg, _, h => by
    unfold takeArguments at h
    split at h
    · cases h
    · cases h
      exact ⟨hg, by simp⟩
  | argument :: arguments, g, g', rest, hg, hnot, h => by
    have hnot' : ∀ a ∈ arguments, ¬ ("--" ++ name).toList <+: a.toList :=
      fun a ha => hnot a (List.mem_cons_of_mem _ ha)
    have hmore : ∀ {g₁ : Given}, g₁.Lacks name → takeArguments forms stops g₁ arguments = .ok (g', rest) →
        g'.Lacks name ∧ ∀ a ∈ rest, a ∈ argument :: arguments := fun hg₁ h =>
      have ⟨hl, hr⟩ := takeArguments_lacks hletters hg₁ hnot' h
      ⟨hl, fun a ha => List.mem_cons_of_mem _ (hr a ha)⟩
    unfold takeArguments at h
    split at h
    · next form hpending =>
      split at h
      · cases h
      split at h
      · cases h
      · next hadd => exact hmore (hg.add (hg.pending form hpending) hadd) h
    split at h
    · cases h
      exact ⟨⟨hg.options, hg.pending⟩, by simp⟩
    split at h
    · split at h
      · cases h
      · next hadd => exact hmore (hg.addArgument hletters (hnot argument (List.mem_cons_self ..)) hadd) h
    split at h
    · cases h
      exact ⟨hg, by simp⟩
    · have hwords : { g with words := g.words ++ [argument] }.Lacks name := ⟨hg.options, hg.pending⟩
      exact hmore hwords h

/-! ## The command -/

namespace Command

/-- The options and words that a command is built from. -/
theorem exists_of_readWith {forms : List OptionForm} {build : Given → Except UsageError Command}
    {arguments : List String} {levels : List Given} {command : Command}
    (h : readWith forms build arguments = .ok (levels, some command)) :
    ∃ g, takeAll (forms ++ OptionForm.common) arguments = .ok g ∧ build g = .ok command := by
  obtain ⟨g, hg, h⟩ := Except.bind_eq_ok_iff.1 h
  split at h
  · cases h
  · obtain ⟨c, hc, h⟩ := Except.bind_eq_ok_iff.1 h
    cases h
    exact ⟨g, hg, hc⟩

/-- Only the command of that name compares documents. -/
theorem name_eq_of_read {name : String} {arguments inputs : List String} {levels : List Given} {failOn : Severity}
    {stripPunctuation : Bool}
    (h : read name arguments = .ok (levels, some (.compare inputs failOn stripPunctuation))) : name = "compare" := by
  have hother : ∀ {forms : List OptionForm} {build : Given → Except UsageError Command},
      (∀ g, build g ≠ .ok (.compare inputs failOn stripPunctuation)) →
        readWith forms build arguments = .ok (levels, some (.compare inputs failOn stripPunctuation)) →
          name = "compare" :=
    fun hbuild h => have ⟨g, _, hg⟩ := exists_of_readWith h; absurd hg (hbuild g)
  unfold read at h
  split at h
  · unfold readStandards at h
    obtain ⟨⟨outer, rest⟩, -, h⟩ := Except.bind_eq_ok_iff.1 h
    simp only at h
    split at h
    · cases h
    split at h
    · cases h
    · obtain ⟨inner, -, h⟩ := Except.bind_eq_ok_iff.1 h
      split at h
      · cases h
      · split at h <;> cases h
    · cases h
  · exact hother (fun g h => by obtain ⟨_, _, h⟩ := Except.bind_eq_ok_iff.1 h; cases h) h
  · exact hother (fun g h => by obtain ⟨_, _, h⟩ := Except.bind_eq_ok_iff.1 h; cases h) h
  · exact hother (fun g h => by obtain ⟨_, _, h⟩ := Except.bind_eq_ok_iff.1 h; cases h) h
  · exact hother (fun g h => by obtain ⟨_, _, h⟩ := Except.bind_eq_ok_iff.1 h; cases h) h
  · rfl
  · cases h

theorem failOn_of_ofCompare {g : Given} {inputs : List String} {failOn : Severity} {stripPunctuation : Bool}
    (hlacks : g.Lacks OptionForm.failOn.name) (h : ofCompare g = .ok (.compare inputs failOn stripPunctuation)) :
    failOn = .low := by
  obtain ⟨named, hnamed, h⟩ := Except.bind_eq_ok_iff.1 h
  simp only [Given.choice?, hlacks.value?, Except.ok.injEq] at hnamed
  subst hnamed
  split at h
  · cases h
  split at h
  · cases h
  · cases h
    rfl

end Command

theorem Invocation.command_of_ofGiven {levels : List Given} {command : Command} {invocation : Invocation}
    (h : Invocation.ofGiven levels command = .ok invocation) : invocation.command = command := by
  obtain ⟨_, _, h⟩ := Except.bind_eq_ok_iff.1 h
  obtain ⟨_, _, h⟩ := Except.bind_eq_ok_iff.1 h
  obtain ⟨_, _, h⟩ := Except.bind_eq_ok_iff.1 h
  cases h
  rfl

/-- What stands behind the name of a command is among the arguments. -/
theorem mem_of_takeName {forms : List OptionForm} {arguments rest : List String} {outer : Given} {name : String}
    (hletters : ∀ form ∈ forms, form.letter.isSome = true → form.name ≠ OptionForm.failOn.name)
    (hnot : ∀ a ∈ arguments, ¬ ("--" ++ OptionForm.failOn.name).toList <+: a.toList)
    (h : takeName forms arguments = .ok (outer, some (name, rest))) : ∀ a ∈ rest, a ∈ arguments := by
  obtain ⟨⟨g, left⟩, htake, h⟩ := Except.bind_eq_ok_iff.1 h
  simp only at h
  split at h
  · cases h
  · cases h
    exact fun a ha => (takeArguments_lacks hletters Given.Lacks.empty hnot htake).2 a (List.mem_cons_of_mem _ ha)
  · cases h

/-- Arguments that do not spell out `--fail-on` leave the severity at the lowest one. -/
theorem Request.failOn_of_read {arguments inputs : List String} {invocation : Invocation} {failOn : Severity}
    {stripPunctuation : Bool} (hread : Request.read arguments = .ok (.run invocation))
    (hcommand : invocation.command = .compare inputs failOn stripPunctuation)
    (hnot : ∀ a ∈ arguments, ¬ ("--" ++ OptionForm.failOn.name).toList <+: a.toList) : failOn = .low := by
  obtain ⟨⟨outer, rest⟩, hname, hread⟩ := Except.bind_eq_ok_iff.1 hread
  simp only at hread
  split at hread
  · cases hread
  split at hread
  · cases hread
  split at hread
  · cases hread
  next name rest =>
  obtain ⟨⟨inner, command⟩, hcommandRead, hread⟩ := Except.bind_eq_ok_iff.1 hread
  simp only at hread
  split at hread
  · cases hread
  obtain ⟨invocation', hgiven, hread⟩ := Except.bind_eq_ok_iff.1 hread
  cases hread
  obtain rfl := (Invocation.command_of_ofGiven hgiven).symm.trans hcommand
  obtain rfl := Command.name_eq_of_read hcommandRead
  obtain ⟨g, hall, hbuild⟩ := Command.exists_of_readWith hcommandRead
  obtain ⟨⟨g', left⟩, htake, rfl⟩ := Except.map_eq_ok_iff.1 hall
  have hrest := mem_of_takeName (by decide +kernel) hnot hname
  exact Command.failOn_of_ofCompare
    (takeArguments_lacks (by decide +kernel) Given.Lacks.empty (fun a ha => hnot a (hrest a ha)) htake).1 hbuild

/-! ## The status -/

theorem Report.countAtLeast_low (r : Report) : r.countAtLeast .low = r.discrepancies.length := by
  simp [countAtLeast, Severity.rank]

/-- A report of no discrepancy that counts and of no gap. -/
def Report.passes (failOn : Severity) (r : Report) : Bool := r.countAtLeast failOn == 0 && r.gaps.isEmpty

/-- The reports of sets all pass exactly when the sets are consistent, when every discrepancy counts. -/
theorem reports_all_pass_iff (sets : List DocumentSet) (equivalence : Equivalence) (table : RuleTable) :
    (sets.map (·.report equivalence table)).all (·.passes .low) = true ↔
      ∀ set ∈ sets, set.Consistent := by
  rw [List.all_map, List.all_eq_true]
  refine forall₂_congr fun set _ => ?_
  have hclean := set.isClean_report_iff equivalence table
  simp [Report.passes, Report.countAtLeast_low, List.isEmpty_iff, ← hclean, Report.isClean]

namespace Workplace

variable {w : Workplace}

/-- What counts as a variant in the comparison of a workplace. -/
def equivalence (w : Workplace) (stripPunctuation : Bool) : Equivalence :=
  { w.settings.comparison with
    stripPunctuation := w.settings.comparison.stripPunctuation || stripPunctuation }

/-- A comparison that has its rules and its sets ends, with the status of its reports. -/
theorem exists_of_compare {inputs : List String} {table : RuleTable} {sets : List DocumentSet}
    (htable : w.ruleTable = .ok table)
    (hsets : inputs.mapM (fun path => w.readJson path DocumentSet.ofJson?) = .ok sets) (failOn : Severity)
    (stripPunctuation : Bool) :
    ∃ result, w.compare inputs failOn stripPunctuation = .ok result ∧ result.status =
      if (sets.map (·.report (w.equivalence stripPunctuation) table)).all (·.passes failOn) then 0 else 1 := by
  simp only [compare, htable, hsets]
  exact ⟨_, rfl, rfl⟩

/-- A set is read from a file that holds its JSON text. -/
theorem readJson_of_toBytes {path text : String} {set : DocumentSet}
    (hfile : w.tree.read path = .ok (Text.toBytes text))
    (hset : (Json.read? text).bind DocumentSet.ofJson? = some set) : w.readJson path DocumentSet.ofJson? = .ok set := by
  have htext : w.readText path = .ok text := by
    simp only [readText, FileTree.readText, hfile, bind, Except.bind, Text.ofBytes?_toBytes, Except.mapError]
  simp only [readJson, htext, bind, Except.bind]
  rw [show Option.bind (Json.read? text) DocumentSet.ofJson? = some set from hset]

end Workplace

/-- A comparison that the arguments ask for, with everything that it reads before it compares. -/
structure Comparison (arguments : List String) (installation : Installation) (tree : FileTree) where
  invocation : Invocation
  inputs : List String
  failOn : Severity
  stripPunctuation : Bool
  read : Request.read arguments = .ok (.run invocation)
  command : invocation.command = .compare inputs failOn stripPunctuation
  /-- The files, the one for log events included. -/
  files : FileTree
  opened : openLog tree invocation.logging = .ok files
  settings : Settings
  settingsRead : readSettings files invocation.settingsFile = .ok settings

namespace Comparison

variable {arguments : List String} {installation : Installation} {tree : FileTree}

/-- What the comparison works on. -/
def workplace (c : Comparison arguments installation tree) : Workplace where
  installation := installation
  tree := c.files
  settings := c.settings
  directory := c.settings.directory c.invocation.standardsDirectory installation.directory
  json := c.invocation.json

/-- The comparison has its rules and the sets of its files. -/
structure Loads (c : Comparison arguments installation tree) (sets : List DocumentSet) : Prop where
  table : ∃ table, c.workplace.ruleTable = .ok table
  sets : c.inputs.mapM (fun path => c.workplace.readJson path DocumentSet.ofJson?) = .ok sets

/-- A comparison that loads ends with the status of its reports. -/
theorem status_eq (c : Comparison arguments installation tree) {table : RuleTable} {sets : List DocumentSet}
    (htable : c.workplace.ruleTable = .ok table)
    (hsets : c.inputs.mapM (fun path => c.workplace.readJson path DocumentSet.ofJson?) = .ok sets) :
    (runArguments arguments installation tree).status =
      if (sets.map (·.report (c.workplace.equivalence c.stripPunctuation) table)).all (·.passes c.failOn)
      then 0 else 1 := by
  obtain ⟨result, hcompare, hstatus⟩ := Workplace.exists_of_compare htable hsets c.failOn c.stripPunctuation
  have hrun : runArguments arguments installation tree = result := by
    unfold workplace at hcompare
    simp only [runArguments, c.read, Invocation.run, c.opened, c.settingsRead, c.command]
    simp only [bind, Except.bind, Workplace.run, hcompare]
  rw [hrun, hstatus]

/-- The status of a comparison that loads, and for which every discrepancy counts, is 0 when the documents of each
set are consistent and 1 when some are not. -/
theorem status_iff (c : Comparison arguments installation tree) {sets : List DocumentSet} (hloads : c.Loads sets)
    (hlow : c.failOn = .low) :
    ((runArguments arguments installation tree).status = 0 ↔ ∀ set ∈ sets, set.Consistent) ∧
      ((runArguments arguments installation tree).status = 1 ↔ ¬ ∀ set ∈ sets, set.Consistent) := by
  obtain ⟨table, htable⟩ := hloads.table
  rw [c.status_eq htable hloads.sets, hlow,
    ← reports_all_pass_iff sets (c.workplace.equivalence c.stripPunctuation) table]
  split <;> simp_all

end Comparison

/-- **Nothing slips through a comparison.** The report on a set is clean exactly when its documents are consistent,
whatever counts as a variant and whatever the table has rules for. A run that compares the sets in files, with
`--fail-on` at its default, ends with status 0 exactly when the documents of each set are consistent, and with
status 1 when some are not. -/
theorem consistent_iff_clean_and_passes :
    (∀ (set : DocumentSet) (equivalence : Equivalence) (table : RuleTable),
      (set.report equivalence table).isClean = true ↔ set.Consistent) ∧
    ∀ {arguments : List String} {installation : Installation} {tree : FileTree}
      (c : Comparison arguments installation tree) (sets : List DocumentSet), c.Loads sets →
      (c.failOn = .low ∨ ∀ a ∈ arguments, ¬ "--fail-on".toList <+: a.toList) →
        ((runArguments arguments installation tree).status = 0 ↔ ∀ set ∈ sets, set.Consistent) ∧
        ((runArguments arguments installation tree).status = 1 ↔ ¬ ∀ set ∈ sets, set.Consistent) := by
  constructor
  · exact fun set => set.isClean_report_iff
  · intro arguments installation tree c sets hloads hdefault
    refine c.status_iff hloads ?_
    rcases hdefault with hlow | hnot
    · exact hlow
    · exact Request.failOn_of_read c.read c.command hnot

/-- A set of two documents, the amount of the invoice being what the tolerance of the credit permits. -/
def presentedSet : String :=
  "\x7b\"id\":\"S1\",\"lc_reference\":\"LC1\",\"documents\":[" ++
    "\x7b\"document_type\":\"credit\",\"extracted_fields\":\x7b\"32B\":\"USD100,00\",\"39A\":\"10/10\"\x7d\x7d," ++
    "\x7b\"document_type\":\"invoice\",\"extracted_fields\":\x7b\"amount\":\"USD 110.00\"\x7d\x7d]\x7d"

/-- The file of that set, and settings that do without a rule book. -/
def presentedWithinTolerance : FileTree where
  files := [
    (["p.json"], Text.toBytes presentedSet),
    (["lc-checker.toml"], Text.toBytes "[classification]\nuse_standards_table = false")]

/-- The text of the set is read, and nothing is reported of its documents. -/
theorem exists_of_presentedSet : ∃ set : DocumentSet, (Json.read? presentedSet).bind DocumentSet.ofJson? = some set ∧
    ([set].map (·.report {} .ucp600)).all (·.passes .low) = true := by
  -- The characters are taken from the literals as they are written: decoding them from bytes would take long.
  have hread : ∃ cs, presentedSet.toList = cs ∧ ((Json.tokens? cs cs.length).bind fun tokens =>
      (tokens.foldlM Json.Reading.step {}).bind fun r => r.result.bind DocumentSet.ofJson?).any (fun set =>
        ([set].map (·.report {} .ucp600)).all (·.passes .low)) = true := by
    unfold presentedSet
    rw [String.toList_append, String.toList_append]
    refine ⟨_, congrArg₂ (· ++ ·) (congrArg₂ (· ++ ·) String.toList_ofList String.toList_ofList)
      String.toList_ofList, ?_⟩
    decide +kernel
  obtain ⟨_, rfl, hany⟩ := hread
  obtain ⟨set, hset, hpasses⟩ := (Option.any_eq_true _ _).1 hany
  refine ⟨set, ?_, hpasses⟩
  rw [← hset, Json.read?, String.length_toList]
  simp [Option.bind_assoc, bind]

/-- The run that compares that set passes, so that the documents of the set are consistent. -/
theorem presentedWithinTolerance_passes :
    ∃ (c : Comparison ["compare", "p.json"] ⟨"standards", {}⟩ presentedWithinTolerance) (sets : List DocumentSet),
      c.Loads sets ∧ sets.length = 1 ∧ ∀ set ∈ sets, set.Consistent := by
  let c : Comparison ["compare", "p.json"] ⟨"standards", {}⟩ presentedWithinTolerance := {
    invocation := ⟨⟨.warn, .pretty, none⟩, none, none, false, .compare ["p.json"] .low false⟩
    inputs := ["p.json"]
    failOn := .low
    stripPunctuation := false
    read := by decide +kernel
    command := rfl
    files := presentedWithinTolerance
    opened := rfl
    settings := { usesStandardsTable := false }
    settingsRead := by decide +kernel }
  obtain ⟨set, hset, hpasses⟩ := exists_of_presentedSet
  have hsets : c.inputs.mapM (fun path => c.workplace.readJson path DocumentSet.ofJson?) = .ok [set] := by
    have hjson : c.workplace.readJson "p.json" DocumentSet.ofJson? = .ok set :=
      Workplace.readJson_of_toBytes rfl hset
    change ["p.json"].mapM (fun path => c.workplace.readJson path DocumentSet.ofJson?) = .ok [set]
    rw [List.mapM_cons, hjson]
    rfl
  have hloads : c.Loads [set] := ⟨⟨_, rfl⟩, hsets⟩
  have hstatus : (runArguments ["compare", "p.json"] ⟨"standards", {}⟩ presentedWithinTolerance).status = 0 :=
    (c.status_eq rfl hsets).trans (if_pos hpasses)
  exact ⟨c, [set], hloads, rfl, (consistent_iff_clean_and_passes.2 c [set] hloads (.inl rfl)).1.1 hstatus⟩

end DocumentaryCredit

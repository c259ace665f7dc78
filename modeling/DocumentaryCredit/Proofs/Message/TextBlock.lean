/-
Text blocks that read back. A block is written line by line and has no escape, so that a line of a value that starts
with a colon would be read as a field of its own. Where no value has such a line, its first line apart, the fields of
a block are read back as they were written, in their order. What stands for a tag must be one: the first line that has
something else between its colons is reported, and nothing is read.
-/
import DocumentaryCredit.Message.TextBlock
import DocumentaryCredit.Proofs.Text
import Mathlib.Data.List.Basic

namespace DocumentaryCredit.TextBlock

open Text

/-! ## Lines of a block -/

/-- No line of a value starts with a colon, the first one apart. -/
def ReadsBack (value : List Char) : Prop := ∀ line ∈ (value.splitOn '\n').tail, line.head? ≠ some ':'

instance (value : List Char) : Decidable (ReadsBack value) :=
  inferInstanceAs (Decidable (∀ line ∈ (value.splitOn '\n').tail, line.head? ≠ some ':'))

/-- The lines of a field, with line feeds between them. -/
def entryChars (entry : String × String) : List Char :=
  ':' :: entry.1.toList ++ ':' :: unifyLineBreaks entry.2.toList

/-- The lines of a list of fields, each behind a line feed. -/
def fieldChars (entries : List (String × String)) : List Char := (entries.map entryChars).flatMap ('\n' :: ·)

/-- The block of a list of fields, with line feeds between its lines. -/
def blockChars (entries : List (String × String)) : List Char :=
  opening.toList ++ (fieldChars entries ++ '\n' :: ending.toList)

theorem mem_of_isTag {tag : List Char} (h : isTag tag = true) : ∀ c ∈ tag, isDigit c = true ∨ isUpper c = true := by
  unfold isTag at h
  split at h
  · simp_all
  · simp_all
  · cases h

/-- A tag has no colon and no line break. -/
theorem not_mem_of_isTag {tag : List Char} (h : isTag tag = true) : ':' ∉ tag ∧ '\n' ∉ tag := by
  constructor <;> intro hmem <;> rcases mem_of_isTag h _ hmem with h | h <;> revert h <;> decide

theorem intercalate_cons (separator front : List Char) (rest : List (List Char)) :
    separator.intercalate (front :: rest) = front ++ rest.flatMap (separator ++ ·) := by
  induction rest generalizing front with
  | nil => simp
  | cons next rest ih => rw [List.intercalate_cons_cons, ih, List.flatMap_cons, List.append_assoc, List.append_assoc]

/-- A tag is on one line. -/
def OneLine (tag : List Char) : Prop := '\n' ∉ tag ∧ '\r' ∉ tag

theorem oneLine_of_isTag {tag : List Char} (h : isTag tag = true) : OneLine tag := by
  refine ⟨(not_mem_of_isTag h).2, fun hmem => ?_⟩
  rcases mem_of_isTag h _ hmem with h | h <;> revert h <;> decide

theorem toList_entryText {entry : String × String} (htag : OneLine entry.1.toList) :
    (entryText entry).toList = wireChars (entryChars entry) := by
  have hvalue : (wireLines entry.2).toList = wireChars (unifyLineBreaks entry.2.toList) := by
    simp [wireLines, wireChars, normalizeLineBreaks]
  simp [entryText, entryChars, hvalue, wireChars_eq_self htag.1]

/-- What is written is the block with CR LF for each of its line feeds. -/
theorem toList_render {entries : List (String × String)} (htags : ∀ e ∈ entries, OneLine e.1.toList) :
    (render entries).toList = wireChars (blockChars entries) := by
  have hlines : ∀ lines : List (List Char),
      wireChars (lines.flatMap ('\n' :: ·)) = (lines.map wireChars).flatMap (['\r', '\n'] ++ ·) := by
    intro lines
    induction lines with
    | nil => rfl
    | cons line lines ih => simp [ih]
  have hentries : (entries.map entryText).map String.toList = (entries.map entryChars).map wireChars := by
    rw [List.map_map, List.map_map]
    exact List.map_congr_left fun e he => toList_entryText (htags e he)
  unfold render blockChars fieldChars
  rw [String.toList_intercalate, List.cons_append, List.map_cons, intercalate_cons, List.map_append, hentries,
    List.flatMap_append, wireChars_append, wireChars_append, hlines]
  rfl

theorem not_mem_blockChars {entries : List (String × String)} (htags : ∀ e ∈ entries, OneLine e.1.toList) :
    '\r' ∉ blockChars entries := by
  have hentry : ∀ e ∈ entries, '\r' ∉ '\n' :: entryChars e := by
    intro e he hmem
    simp [entryChars, (htags e he).2, not_mem_unifyLineBreaks] at hmem
  have hopening : '\r' ∉ opening.toList := by decide
  have hending : '\r' ∉ '\n' :: ending.toList := by decide
  simp only [blockChars, fieldChars, List.mem_append, List.mem_flatMap, List.mem_map, not_or]
  refine ⟨hopening, ?_, hending⟩
  rintro ⟨_, ⟨e, he, rfl⟩, hmem⟩
  exact hentry e he hmem

/-- The text of a block with one kind of line break; there is nothing to trim. -/
theorem normalizeLineBreaks_trim_render {entries : List (String × String)}
    (htags : ∀ e ∈ entries, OneLine e.1.toList) :
    normalizeLineBreaks (trim (render entries)) = String.ofList (blockChars entries) := by
  have htext := toList_render htags
  have hends : wireChars (blockChars entries) =
      opening.toList ++ (wireChars (fieldChars entries) ++ ['\r', '\n'] ++ ending.toList) := by
    simp only [blockChars, wireChars_append, wireChars_cons, List.append_assoc]
    rfl
  have htrim : trim (render entries) = render entries := by
    unfold trim
    rw [htext, hends, trimChars_eq_self, ← hends, ← htext, String.ofList_toList]
    · intro c hc
      obtain rfl : '\x7b' = c := by simpa [opening] using hc
      rfl
    · intro c hc
      rw [← List.append_assoc, List.getLast?_append_of_ne_nil _ (by decide)] at hc
      obtain rfl : '\x7d' = c := by simpa [ending] using hc
      rfl
  rw [htrim, normalizeLineBreaks, htext, unifyLineBreaks_wireChars (not_mem_blockChars htags)]

/-! ## Reading the lines of a block -/

/-- The fields of a list with one kind of line break in their values. -/
def unified (entries : List (String × String)) : List (String × String) :=
  entries.map fun e => (e.1, normalizeLineBreaks e.2)

/-- A line with two colons starts a field if it has a tag between them. -/
theorem splitTag?_eq {tag : List Char} (hcolon : ':' ∉ tag) (value : List Char) :
    splitTag? (':' :: tag ++ ':' :: value) =
      if isTag tag then some (String.ofList tag, String.ofList value) else none := by
  have htake : (tag ++ ':' :: value).takeWhile (· != ':') = tag := by
    rw [List.takeWhile_append_of_pos]
    · simp
    · intro c hc
      simp only [bne_iff_ne]
      rintro rfl
      exact hcolon hc
  simp [splitTag?, htake]

theorem splitTag?_of_isTag {tag : List Char} (htag : isTag tag = true) (value : List Char) :
    splitTag? (':' :: tag ++ ':' :: value) = some (String.ofList tag, String.ofList value) := by
  rw [splitTag?_eq (not_mem_of_isTag htag).1, if_pos htag]

theorem splitTag?_eq_none {line : List Char} (h : line.head? ≠ some ':') : splitTag? line = none := by
  unfold splitTag?
  split
  · simp at h
  · rfl

theorem isTag_of_splitTag? {line : List Char} {tag value : String} (h : splitTag? line = some (tag, value)) :
    isTag tag.toList = true := by
  unfold splitTag? at h
  split at h
  case h_2 => cases h
  simp only at h
  split at h
  case h_2 => cases h
  split at h
  case isFalse => cases h
  next htag =>
    cases h
    simpa using htag

/-- All tags that are read are tags. -/
theorem isTag_of_readLines {read : List (String × String)} {line : Nat} {lines : List (List Char)}
    {entries : List (String × String)} (hread : ∀ e ∈ read, isTag e.1.toList = true)
    (h : readLines read line lines = .ok entries) : ∀ e ∈ entries, isTag e.1.toList = true := by
  fun_induction readLines read line lines with
  | case1 read line =>
    cases h
    simpa using hread
  | case2 => cases h
  | case3 read line cs rest tag value hsplit hnew ih =>
    exact ih (List.forall_mem_cons.2 ⟨isTag_of_splitTag? hsplit, hread⟩) h
  | case4 => cases h
  | case5 line cs rest hsplit tag value earlier hhead ih =>
    obtain ⟨htag, hearlier⟩ := List.forall_mem_cons.1 hread
    exact ih (List.forall_mem_cons.2 ⟨htag, hearlier⟩) h
  | case6 => cases h

/-- A line that starts with a colon and is not the line of a tag ends the reading. -/
theorem readLines_malformed {read : List (String × String)} {line : Nat} {cs : List Char} {rest : List (List Char)}
    (hsplit : splitTag? cs = none) (hhead : cs.head? = some ':') :
    readLines read line (cs :: rest) = .error (.malformedLine line (String.ofList cs)) := by
  rw [readLines.eq_def]
  simp only [hsplit]
  cases read with
  | nil => rfl
  | cons e read => simp [hhead]

/-- Lines that do not start with a colon go on with the value before them. -/
theorem readLines_continue {tag : String} {earlier : List (String × String)} {more : List (List Char)} :
    ∀ {lines : List (List Char)} {first : List Char} {line : Nat}, (∀ l ∈ lines, l.head? ≠ some ':') →
      readLines ((tag, String.ofList first) :: earlier) line (lines ++ more) =
        readLines ((tag, String.ofList (['\n'].intercalate (first :: lines))) :: earlier) (line + lines.length) more
  | [], first, line, _ => by simp
  | next :: lines, first, line, h => by
    have hnext : String.ofList first ++ "\n" ++ String.ofList next = String.ofList (first ++ '\n' :: next) := by
      rw [← String.toList_inj]
      simp
    have hjoin : ['\n'].intercalate ((first ++ '\n' :: next) :: lines) =
        ['\n'].intercalate (first :: next :: lines) := by
      simp [intercalate_cons]
    rw [List.cons_append, readLines, splitTag?_eq_none (h next (by simp))]
    simp only [if_neg (h next (by simp)), hnext]
    rw [readLines_continue fun l hl => h l (by simp [hl]), hjoin, List.length_cons, Nat.add_assoc, Nat.add_comm 1]

/-- The lines of a field: the first has its tag. -/
theorem splitOn_entryChars {entry : String × String} (htag : '\n' ∉ entry.1.toList) :
    ∃ first rest, (unifyLineBreaks entry.2.toList).splitOn '\n' = first :: rest ∧
      (entryChars entry).splitOn '\n' = (':' :: entry.1.toList ++ ':' :: first) :: rest := by
  obtain ⟨first, rest, hvalue⟩ :=
    List.exists_cons_of_ne_nil (List.splitOn_ne_nil '\n' (unifyLineBreaks entry.2.toList))
  refine ⟨first, rest, hvalue, ?_⟩
  have hfront : ∀ c ∈ ':' :: entry.1.toList ++ [':'], (c == '\n') = false := by
    intro c hc
    rw [beq_eq_false_iff_ne]
    rintro rfl
    simp [htag] at hc
  have hsplit := splitOnP_append_of_forall hfront (unifyLineBreaks entry.2.toList)
  rw [← List.splitOn_eq_splitOnP, ← List.splitOn_eq_splitOnP, hvalue] at hsplit
  simpa [entryChars] using hsplit

/-- A field that reads back is read as it was written. -/
theorem readLines_entry {entry : String × String} {read : List (String × String)}
    (htag : isTag entry.1.toList = true) (hback : ReadsBack (unifyLineBreaks entry.2.toList))
    (hnew : ∀ e ∈ read, e.1 ≠ entry.1) (line : Nat) (more : List (List Char)) :
    ∃ line', readLines read line ((entryChars entry).splitOn '\n' ++ more) =
      readLines ((entry.1, normalizeLineBreaks entry.2) :: read) line' more := by
  obtain ⟨first, rest, hvalue, hlines⟩ := splitOn_entryChars (not_mem_of_isTag htag).2
  have hrest : ∀ l ∈ rest, l.head? ≠ some ':' := by
    unfold ReadsBack at hback
    rwa [hvalue] at hback
  have hunread : read.any (·.1 == entry.1) = false := by
    simpa using fun tag value h => hnew (tag, value) h
  have hjoin : String.ofList (['\n'].intercalate (first :: rest)) = normalizeLineBreaks entry.2 := by
    rw [← hvalue, List.intercalate_splitOn, normalizeLineBreaks]
  refine ⟨line + 1 + rest.length, ?_⟩
  rw [hlines, List.cons_append, readLines.eq_def]
  simp only [splitTag?_of_isTag htag]
  simp only [String.ofList_toList, hunread, Bool.false_eq_true, if_false]
  rw [readLines_continue hrest, hjoin]

/-- Fields that read back are read one after another. -/
theorem readLines_entries (more : List (List Char)) : ∀ (entries read : List (String × String)) (line : Nat),
    (∀ e ∈ entries, isTag e.1.toList = true) → (∀ e ∈ entries, ReadsBack (unifyLineBreaks e.2.toList)) →
      (entries.map (·.1)).Nodup → (∀ e ∈ entries, ∀ old ∈ read, old.1 ≠ e.1) →
        ∃ line', readLines read line ((entries.flatMap fun e => (entryChars e).splitOn '\n') ++ more) =
          readLines ((unified entries).reverse ++ read) line' more
  | [], read, line, _, _, _, _ => ⟨line, by simp [unified]⟩
  | entry :: entries, read, line, htags, hback, hnodup, hnew => by
    obtain ⟨hfirst, hrest⟩ := List.nodup_cons.1 hnodup
    obtain ⟨line', hentry⟩ := readLines_entry (htags entry (by simp)) (hback entry (by simp)) (hnew entry (by simp))
      line ((entries.flatMap fun e => (entryChars e).splitOn '\n') ++ more)
    have hunread : ∀ e ∈ entries, ∀ old ∈ (entry.1, normalizeLineBreaks entry.2) :: read, old.1 ≠ e.1 := by
      intro e he old hold
      rcases List.mem_cons.1 hold with rfl | hold
      · exact fun heq => hfirst (List.mem_map.2 ⟨e, he, heq.symm⟩)
      · exact hnew e (by simp [he]) old hold
    obtain ⟨line'', hentries⟩ := readLines_entries more entries _ line' (fun e he => htags e (by simp [he]))
      (fun e he => hback e (by simp [he])) hrest hunread
    refine ⟨line'', ?_⟩
    rw [List.flatMap_cons, List.append_assoc, hentry, hentries]
    simp [unified]

/-! ## Reading a block -/

theorem splitOn_intercalate_cons (separator : Char) (front : List Char) (rest : List (List Char)) :
    ([separator].intercalate (front :: rest)).splitOn separator = (front :: rest).flatMap (·.splitOn separator) := by
  induction rest generalizing front with
  | nil => simp
  | cons next rest ih =>
    rw [List.intercalate_cons_cons, List.append_assoc, List.singleton_append, List.splitOn_append_cons_self, ih]
    simp

/-- The fields of a block that is written are read off its lines. -/
theorem entries_render_eq {entries : List (String × String)} (htags : ∀ e ∈ entries, OneLine e.1.toList) :
    TextBlock.entries (render entries) = readLines [] 2 (entries.flatMap fun e => (entryChars e).splitOn '\n') := by
  have hstart : stripStart? opening (String.ofList (blockChars entries)) =
      some (String.ofList (fieldChars entries ++ '\n' :: ending.toList)) := by
    rw [stripStart?_eq_some_iff]
    simp [blockChars]
  have hstop : stripEnd? ending (String.ofList (fieldChars entries ++ '\n' :: ending.toList)) =
      some (String.ofList (fieldChars entries ++ ['\n'])) := by
    rw [stripEnd?_eq_some_iff]
    simp
  unfold TextBlock.entries
  rw [normalizeLineBreaks_trim_render htags, hstart]
  simp only [hstop]
  cases entries with
  | nil => rfl
  | cons entry rest =>
    have hfields : fieldChars (entry :: rest) = '\n' :: ['\n'].intercalate ((entry :: rest).map entryChars) := by
      simp [fieldChars, intercalate_cons]
    have hbody : (stripStart? "\n" (String.ofList (fieldChars (entry :: rest) ++ ['\n']))) =
        some (String.ofList (['\n'].intercalate ((entry :: rest).map entryChars) ++ ['\n'])) := by
      rw [stripStart?_eq_some_iff, hfields]
      simp
    have hlast : stripEnd? "\n" (String.ofList (['\n'].intercalate ((entry :: rest).map entryChars) ++ ['\n'])) =
        some (String.ofList (['\n'].intercalate ((entry :: rest).map entryChars))) := by
      rw [stripEnd?_eq_some_iff]
      simp
    have hsome : (String.ofList (['\n'].intercalate ((entry :: rest).map entryChars))).isEmpty = false := by
      simp [intercalate_cons, entryChars]
    simp only [hbody, hlast, Option.getD_some, hsome, Bool.false_eq_true, if_false, String.toList_ofList,
      splitWhere_eq_splitOn]
    rw [List.map_cons, splitOn_intercalate_cons, ← List.map_cons, List.flatMap_map]

/-- **A block reads back.** The fields of a block that is written for fields with distinct tags, whose values have no
line but the first that starts with a colon, are these fields in their order. -/
theorem entries_render {entries : List (String × String)} (htags : ∀ e ∈ entries, isTag e.1.toList = true)
    (hnodup : (entries.map (·.1)).Nodup) (hback : ∀ e ∈ entries, ReadsBack (unifyLineBreaks e.2.toList)) :
    TextBlock.entries (render entries) = .ok (unified entries) := by
  obtain ⟨line, hread⟩ := readLines_entries [] entries [] 2 htags hback hnodup (by simp)
  rw [List.append_nil] at hread
  rw [entries_render_eq fun e he => oneLine_of_isTag (htags e he), hread]
  simp [readLines]

/-- **A block with a tag that is none is not read.** The fields before it are read as they were written, and then its
line is reported. -/
theorem entries_render_malformed {before after : List (String × String)} {entry : String × String}
    (honeLine : ∀ e ∈ before ++ entry :: after, OneLine e.1.toList)
    (htags : ∀ e ∈ before, isTag e.1.toList = true) (hnodup : (before.map (·.1)).Nodup)
    (hback : ∀ e ∈ before, ReadsBack (unifyLineBreaks e.2.toList)) (htag : isTag entry.1.toList = false)
    (hcolon : ':' ∉ entry.1.toList) : ∃ line value,
      TextBlock.entries (render (before ++ entry :: after)) =
        .error (.malformedLine line (":" ++ entry.1 ++ ":" ++ value)) := by
  obtain ⟨first, rest, -, hlines⟩ := splitOn_entryChars (honeLine entry (by simp)).1
  obtain ⟨line, hread⟩ := readLines_entries
    ((entryChars entry).splitOn '\n' ++ after.flatMap fun e => (entryChars e).splitOn '\n') before [] 2 htags hback
    hnodup (by simp)
  have hline : String.ofList (':' :: entry.1.toList ++ ':' :: first) =
      ":" ++ entry.1 ++ ":" ++ String.ofList first := by
    rw [← String.toList_inj]
    simp
  refine ⟨line, String.ofList first, ?_⟩
  have hsplit : splitTag? (':' :: entry.1.toList ++ ':' :: first) = none := by
    rw [splitTag?_eq hcolon, htag]
    rfl
  rw [entries_render_eq honeLine, List.flatMap_append, List.flatMap_cons, hread, hlines, List.cons_append,
    readLines_malformed hsplit rfl, hline]

/-- All tags of a block that is read are tags. -/
theorem isTag_of_entries {text : String} {entries : List (String × String)}
    (h : TextBlock.entries text = .ok entries) : ∀ e ∈ entries, isTag e.1.toList = true := by
  unfold TextBlock.entries at h
  split at h
  · cases h
  split at h
  · cases h
  simp only at h
  split at h
  · cases h
    simp
  · exact isTag_of_readLines (by simp) h

end DocumentaryCredit.TextBlock

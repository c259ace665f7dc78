/-
The texts that are read as blocks. Reading takes lines off a text one after another and hangs each of them on a field,
and no line falls between two fields: the fields that have been read, written one under the other, are the lines that
they were read from. What is read is therefore the text itself, but for the order in which a map keeps its entries and
for one line break behind the opening and one before the ending, either of which may be there or not.
-/
import DocumentaryCredit.Proofs.Message.TextBlock
import DocumentaryCredit.Proofs.TextMap

namespace DocumentaryCredit.TextBlock

open Text

/-! ## Blocks -/

/-- A field as it stands in a block: its tag between colons, and its value. -/
def fieldText (entry : String × String) : String := ":" ++ entry.1 ++ ":" ++ entry.2

/-- Fields as they stand in a block, one under the other. -/
def fieldsText (entries : List (String × String)) : String := "\n".intercalate (entries.map fieldText)

/-- A line break that may be there or not. -/
def IsOptionalBreak (text : String) : Prop := text = "" ∨ text = "\n"

/-- Fields that can stand in a block: their tags are tags, each once, and their values read back. -/
structure AreFields (entries : List (String × String)) : Prop where
  tags : ∀ e ∈ entries, isTag e.1.toList = true
  nodup : (entries.map (·.1)).Nodup
  readsBack : ∀ e ∈ entries, ReadsBack e.2.toList

/-- A text with line feeds for its line breaks that is a block of some fields in their order. Where the last value ends
with a line break, another one stands before the ending: of two, the first belongs to the value. -/
structure IsBlock (entries : List (String × String)) (text : String) : Prop extends AreFields entries where
  written : ∃ front back, IsOptionalBreak front ∧ IsOptionalBreak back ∧
    text = opening ++ front ++ fieldsText entries ++ back ++ ending ∧
    ((fieldsText entries).toList.getLast? = some '\n' → back = "\n")

/-! ## Lines and fields -/

/-- The characters of a field in a block. -/
def fieldTextChars (entry : String × String) : List Char := ':' :: entry.1.toList ++ ':' :: entry.2.toList

theorem toList_fieldsText (entries : List (String × String)) :
    (fieldsText entries).toList = ['\n'].intercalate (entries.map fieldTextChars) := by
  have hfield : entries.map (String.toList ∘ fieldText) = entries.map fieldTextChars :=
    List.map_congr_left fun e _ => by simp [fieldText, fieldTextChars]
  rw [fieldsText, String.toList_intercalate, List.map_map, hfield]
  rfl

/-- Lines, each behind a line feed. -/
def behindBreaks (lines : List (List Char)) : List Char := lines.flatMap ('\n' :: ·)

theorem behindBreaks_eq {lines : List (List Char)} (h : lines ≠ []) :
    behindBreaks lines = '\n' :: ['\n'].intercalate lines := by
  obtain ⟨line, lines, rfl⟩ := List.exists_cons_of_ne_nil h
  rw [intercalate_cons]
  rfl

/-- The line that starts a field is the field, as far as it has been read. -/
theorem eq_fieldTextChars_of_splitTag? {line : List Char} {tag value : String}
    (h : splitTag? line = some (tag, value)) : line = fieldTextChars (tag, value) := by
  unfold splitTag? at h
  split at h
  case h_2 => cases h
  next rest =>
  simp only [drop_length_takeWhile] at h
  split at h
  case h_2 => cases h
  next behind hbehind =>
  split at h
  case isFalse => cases h
  cases h
  have hrest : rest.takeWhile (· != ':') ++ ':' :: behind = rest := by
    rw [← hbehind, List.takeWhile_append_dropWhile]
  simp [fieldTextChars, hrest]

/-- A line that is read on with a field ends its text. -/
theorem fieldTextChars_append (tag value : String) (line : List Char) :
    fieldTextChars (tag, value ++ "\n" ++ String.ofList line) = fieldTextChars (tag, value) ++ '\n' :: line := by
  simp [fieldTextChars]

theorem readsBack_of_oneLine {value : List Char} (h : '\n' ∉ value) : ReadsBack value := by
  have hlines : value.splitOn '\n' = [value] := List.splitOn_eq_singleton h
  simp [ReadsBack, hlines]

theorem readsBack_append {value line : List Char} (hvalue : ReadsBack value) (hbreak : '\n' ∉ line)
    (hhead : line.head? ≠ some ':') : ReadsBack (value ++ '\n' :: line) := by
  have hlines : (value ++ '\n' :: line).splitOn '\n' = value.splitOn '\n' ++ [line] := by
    rw [List.splitOn_append_cons_self, List.splitOn_eq_singleton hbreak]
  intro l hl
  rw [hlines, List.tail_append_of_ne_nil (List.splitOn_ne_nil '\n' value)] at hl
  rcases List.mem_append.1 hl with hl | hl
  · exact hvalue l hl
  · rwa [List.mem_singleton.1 hl]

/-- A line has no line break. -/
theorem not_mem_of_mem_splitOn {cs : List Char} {separator : Char} :
    ∀ piece ∈ cs.splitOn separator, separator ∉ piece := by
  intro piece hpiece hmem
  rw [List.splitOn_eq_splitOnP] at hpiece
  simpa using eq_false_of_mem_splitOnP piece hpiece separator hmem

/-! ## Reading -/

namespace AreFields

variable {entries : List (String × String)}

theorem nil : AreFields [] := ⟨by simp, by simp, by simp⟩

theorem reverse (h : AreFields entries) : AreFields entries.reverse := by
  refine ⟨fun e he => h.tags e (List.mem_reverse.1 he), ?_, fun e he => h.readsBack e (List.mem_reverse.1 he)⟩
  rw [List.map_reverse, List.nodup_reverse]
  exact h.nodup

/-- A line with a new tag starts one more field. -/
theorem start {line : List Char} {tag value : String} (h : AreFields entries) (hbreak : '\n' ∉ line)
    (hsplit : splitTag? line = some (tag, value)) (hnew : entries.any (·.1 == tag) = false) :
    AreFields ((tag, value) :: entries) := by
  rw [eq_fieldTextChars_of_splitTag? hsplit] at hbreak
  have hvalue : '\n' ∉ value.toList := fun hmem => hbreak (by simp [fieldTextChars, hmem])
  have hunread : tag ∉ entries.map (·.1) := by
    rintro hmem
    obtain ⟨e, he, rfl⟩ := List.mem_map.1 hmem
    exact List.any_eq_false.1 hnew e he (beq_self_eq_true e.1)
  exact ⟨List.forall_mem_cons.2 ⟨isTag_of_splitTag? hsplit, h.tags⟩, List.nodup_cons.2 ⟨hunread, h.nodup⟩,
    List.forall_mem_cons.2 ⟨readsBack_of_oneLine hvalue, h.readsBack⟩⟩

/-- Any other line goes on with the field before it. -/
theorem readOn {line : List Char} {tag value : String} (h : AreFields ((tag, value) :: entries))
    (hbreak : '\n' ∉ line) (hhead : line.head? ≠ some ':') :
    AreFields ((tag, value ++ "\n" ++ String.ofList line) :: entries) := by
  obtain ⟨htag, htags⟩ := List.forall_mem_cons.1 h.tags
  obtain ⟨hvalue, hvalues⟩ := List.forall_mem_cons.1 h.readsBack
  have hmore : (value ++ "\n" ++ String.ofList line).toList = value.toList ++ '\n' :: line := by simp
  refine ⟨List.forall_mem_cons.2 ⟨htag, htags⟩, h.nodup, List.forall_mem_cons.2 ⟨?_, hvalues⟩⟩
  rw [hmore]
  exact readsBack_append hvalue hbreak hhead

end AreFields

/-- **No line is lost.** The fields that are read, one under the other, are the fields that were read before and the
lines that were left. -/
theorem behindBreaks_of_readLines {read : List (String × String)} {line : Nat} {lines : List (List Char)}
    {entries : List (String × String)} (hread : AreFields read) (hbreaks : ∀ l ∈ lines, '\n' ∉ l)
    (h : readLines read line lines = .ok entries) : AreFields entries ∧
      behindBreaks (entries.map fieldTextChars) = behindBreaks (read.reverse.map fieldTextChars ++ lines) := by
  fun_induction readLines read line lines with
  | case1 read line =>
    cases h
    exact ⟨hread.reverse, by rw [List.append_nil]⟩
  | case2 => cases h
  | case3 read line cs rest tag value hsplit hnew ih =>
    obtain ⟨hbreak, hrest⟩ := List.forall_mem_cons.1 hbreaks
    obtain ⟨hentries, hlines⟩ := ih (hread.start hbreak hsplit (Bool.eq_false_iff.2 hnew)) hrest h
    refine ⟨hentries, hlines.trans ?_⟩
    simp [eq_fieldTextChars_of_splitTag? hsplit]
  | case4 => cases h
  | case5 line cs rest hsplit tag value earlier hhead ih =>
    obtain ⟨hbreak, hrest⟩ := List.forall_mem_cons.1 hbreaks
    obtain ⟨hentries, hlines⟩ := ih (hread.readOn hbreak hhead) hrest h
    refine ⟨hentries, hlines.trans ?_⟩
    simp [behindBreaks, fieldTextChars_append]
  | case6 => cases h

/-- The fields that are read off a text are the text. -/
theorem toList_fieldsText_of_readLines {text : List Char} {entries : List (String × String)}
    (h : readLines [] 2 (text.splitOn '\n') = .ok entries) :
    AreFields entries ∧ (fieldsText entries).toList = text := by
  obtain ⟨hentries, hlines⟩ := behindBreaks_of_readLines .nil not_mem_of_mem_splitOn h
  refine ⟨hentries, ?_⟩
  have hlines : behindBreaks (entries.map fieldTextChars) = '\n' :: text := by
    rw [hlines, List.reverse_nil, List.map_nil, List.nil_append, behindBreaks_eq (List.splitOn_ne_nil '\n' text),
      List.intercalate_splitOn]
  have hne : entries.map fieldTextChars ≠ [] := by
    intro hnil
    rw [hnil] at hlines
    cases hlines
  rw [behindBreaks_eq hne] at hlines
  rw [toList_fieldsText]
  exact (List.cons.inj hlines).2

/-- Fields that can stand in a block are read off their text, if it has one kind of line break. -/
theorem readLines_fieldsText {entries : List (String × String)} (hfields : AreFields entries) (hne : entries ≠ [])
    (hfeeds : '\r' ∉ (fieldsText entries).toList) :
    readLines [] 2 ((fieldsText entries).toList.splitOn '\n') = .ok entries := by
  obtain ⟨entry, rest, rfl⟩ := List.exists_cons_of_ne_nil hne
  have hvalues : ∀ e ∈ entry :: rest, '\r' ∉ e.2.toList := by
    intro e he hmem
    have hbehind : '\r' ∈ behindBreaks ((entry :: rest).map fieldTextChars) :=
      List.mem_flatMap.2 ⟨_, List.mem_map_of_mem he, by simp [fieldTextChars, hmem]⟩
    rw [behindBreaks_eq (by simp), ← toList_fieldsText] at hbehind
    exact hfeeds (List.mem_of_ne_of_mem (by decide) hbehind)
  have hchars : (entry :: rest).map fieldTextChars = (entry :: rest).map entryChars :=
    List.map_congr_left fun e he => by rw [fieldTextChars, entryChars, unifyLineBreaks_eq_self (hvalues e he)]
  have hunified : unified (entry :: rest) = entry :: rest :=
    (List.map_congr_left (g := id) fun e he => by rw [normalizeLineBreaks_eq_self (hvalues e he), id_eq]).trans
      (List.map_id _)
  have hback : ∀ e ∈ entry :: rest, ReadsBack (unifyLineBreaks e.2.toList) := by
    intro e he
    rw [unifyLineBreaks_eq_self (hvalues e he)]
    exact hfields.readsBack e he
  obtain ⟨line, hread⟩ := readLines_entries [] (entry :: rest) [] 2 hfields.tags hback hfields.nodup (by simp)
  rw [List.append_nil, List.append_nil, hunified, ← List.flatMap_map, List.map_cons, ← splitOn_intercalate_cons,
    ← List.map_cons, ← hchars, ← toList_fieldsText] at hread
  rw [hread, readLines, List.reverse_reverse]

/-! ## Blocks that are read -/

theorem exists_stripStart? (body : String) :
    ∃ front, IsOptionalBreak front ∧ body = front ++ (stripStart? "\n" body).getD body := by
  cases h : stripStart? "\n" body with
  | none => exact ⟨"", .inl rfl, by simp⟩
  | some rest => exact ⟨"\n", .inr rfl, String.toList_inj.1 (by simpa using stripStart?_eq_some_iff.1 h)⟩

/-- A line break is stripped off the end of a text if it has one there. -/
theorem exists_stripEnd? (body : String) :
    ∃ back, IsOptionalBreak back ∧ body = (stripEnd? "\n" body).getD body ++ back ∧
      (((stripEnd? "\n" body).getD body).toList.getLast? = some '\n' → back = "\n") := by
  cases h : stripEnd? "\n" body with
  | some rest => exact ⟨"\n", .inr rfl, String.toList_inj.1 (by simpa using stripEnd?_eq_some_iff.1 h), fun _ => rfl⟩
  | none =>
    refine ⟨"", .inl rfl, by simp, fun hlast => ?_⟩
    obtain ⟨front, hfront⟩ := List.getLast?_eq_some_iff.1 hlast
    have hsome : stripEnd? "\n" body = some (String.ofList front) :=
      stripEnd?_eq_some_iff.2 (by simpa using hfront)
    rw [h] at hsome
    cases hsome

/-- What is read as fields is a block of them. -/
theorem isBlock_of_entries {text : String} {entries : List (String × String)}
    (h : TextBlock.entries text = .ok entries) : IsBlock entries (normalizeLineBreaks (trim text)) := by
  unfold TextBlock.entries at h
  split at h
  case h_1 => cases h
  next rest hstart =>
  split at h
  case h_1 => cases h
  next body hstop =>
  obtain ⟨front, hfront, hbody⟩ := exists_stripStart? body
  obtain ⟨back, hback, hinner, hlast⟩ := exists_stripEnd? ((stripStart? "\n" body).getD body)
  simp only at h
  generalize (stripEnd? "\n" ((stripStart? "\n" body).getD body)).getD ((stripStart? "\n" body).getD body) = inner
    at h hinner hlast
  have hread : AreFields entries ∧ fieldsText entries = inner := by
    split at h
    · next hempty =>
      cases h
      exact ⟨.nil, (String.isEmpty_iff.1 hempty).symm⟩
    · rw [splitWhere_eq_splitOn] at h
      obtain ⟨hfields, hinner⟩ := toList_fieldsText_of_readLines h
      exact ⟨hfields, String.toList_inj.1 hinner⟩
  obtain ⟨hfields, rfl⟩ := hread
  refine ⟨hfields, front, back, hfront, hback, ?_, hlast⟩
  rw [hinner] at hbody
  rw [← String.toList_inj, stripStart?_eq_some_iff.1 hstart, stripEnd?_eq_some_iff.1 hstop, hbody]
  simp

theorem getD_stripStart? {front rest : String} (hfront : IsOptionalBreak front)
    (hhead : rest.toList.head? ≠ some '\n') : (stripStart? "\n" (front ++ rest)).getD (front ++ rest) = rest := by
  rcases hfront with rfl | rfl
  · cases h : stripStart? "\n" ("" ++ rest) with
    | none => simp
    | some more =>
      have hmore := stripStart?_eq_some_iff.1 h
      simp only [String.empty_append] at hmore
      exact absurd (by rw [hmore]; rfl) hhead
  · have hstrip : stripStart? "\n" ("\n" ++ rest) = some rest := stripStart?_eq_some_iff.2 (by simp)
    rw [hstrip, Option.getD_some]

theorem getD_stripEnd? {inner back : String} (hback : IsOptionalBreak back)
    (hlast : inner.toList.getLast? = some '\n' → back = "\n") :
    (stripEnd? "\n" (inner ++ back)).getD (inner ++ back) = inner := by
  rcases hback with rfl | rfl
  · cases h : stripEnd? "\n" (inner ++ "") with
    | none => simp
    | some less =>
      have hless := stripEnd?_eq_some_iff.1 h
      simp only [String.append_empty] at hless
      exact absurd (hlast (by rw [hless]; simp)) (by decide)
  · have hstrip : stripEnd? "\n" (inner ++ "\n") = some inner := stripEnd?_eq_some_iff.2 (by simp)
    rw [hstrip, Option.getD_some]

/-- A block of fields is read as these fields. -/
theorem entries_of_isBlock {text : String} {entries : List (String × String)}
    (h : IsBlock entries (normalizeLineBreaks (trim text))) : TextBlock.entries text = .ok entries := by
  obtain ⟨front, back, hfront, hback, htext, hlast⟩ := h.written
  have hfeeds : '\r' ∉ (fieldsText entries).toList := by
    have hnone := not_mem_normalizeLineBreaks (trim text)
    rw [htext] at hnone
    exact fun hmem => hnone (by simp [hmem])
  have hstart : stripStart? opening (normalizeLineBreaks (trim text)) =
      some (front ++ fieldsText entries ++ back ++ ending) := by
    rw [stripStart?_eq_some_iff, htext]
    simp
  have hstop : stripEnd? ending (front ++ fieldsText entries ++ back ++ ending) =
      some (front ++ (fieldsText entries ++ back)) := by
    rw [stripEnd?_eq_some_iff]
    simp
  unfold TextBlock.entries
  rw [hstart]
  simp only [hstop]
  by_cases hnil : entries = []
  · -- Between the opening and the ending there is nothing but line breaks.
    subst hnil
    rcases hfront with rfl | rfl <;> rcases hback with rfl | rfl <;> rfl
  obtain ⟨entry, rest, hcons⟩ := List.exists_cons_of_ne_nil hnil
  have hcolon : ∃ more, (fieldsText entries).toList = ':' :: more := by
    rw [hcons, toList_fieldsText, List.map_cons, intercalate_cons]
    exact ⟨_, rfl⟩
  obtain ⟨more, hcolon⟩ := hcolon
  have hhead : (fieldsText entries ++ back).toList.head? ≠ some '\n' := by simp [hcolon]
  have hsome : (fieldsText entries).isEmpty = false := by
    rw [← Bool.not_eq_true, String.isEmpty_iff]
    rintro hempty
    simp [hempty] at hcolon
  simp only [getD_stripStart? hfront hhead, getD_stripEnd? hback hlast, hsome, Bool.false_eq_true, if_false,
    splitWhere_eq_splitOn]
  exact readLines_fieldsText h.toAreFields hnil hfeeds

/-- A map that is read has the fields of a block. -/
theorem exists_of_read {text : String} {fields : FieldValues} (h : read text = .ok fields) :
    ∃ entries, IsBlock entries (normalizeLineBreaks (trim text)) ∧ TextMap.ofList entries = fields := by
  unfold read at h
  cases hentries : TextBlock.entries text with
  | error e =>
    rw [hentries] at h
    cases h
  | ok entries =>
    rw [hentries] at h
    exact ⟨entries, isBlock_of_entries hentries, by simpa [Except.map] using h⟩

/-- **What is read is the text.** A text is read as a map of fields exactly if, trimmed and with line feeds for its line
breaks, it is a block of the fields of the map in some order: nothing of the text is lost, nothing is put in, and all
tags are tags. -/
theorem read_eq_ok_iff_isBlock {text : String} {fields : FieldValues} :
    read text = .ok fields ↔
      ∃ entries, entries.Perm fields.entries ∧ IsBlock entries (normalizeLineBreaks (trim text)) := by
  constructor
  · intro h
    obtain ⟨entries, hblock, rfl⟩ := exists_of_read h
    exact ⟨entries, (TextMap.perm_ofList hblock.nodup).symm, hblock⟩
  · rintro ⟨entries, hperm, hblock⟩
    rw [read, entries_of_isBlock hblock, Except.map,
      TextMap.ofList_eq_of_forall_mem_iff hblock.nodup fun e => hperm.mem_iff]

/-- Of two line breaks before the ending, the first belongs to the last value. -/
example : read "\x7b4::32B:EUR1,\r\n:20:LC1\r\n\r\n-\x7d" = .ok (.ofList [("20", "LC1\n"), ("32B", "EUR1,")]) := by
  decide +kernel

end DocumentaryCredit.TextBlock

/-
Values of a compiled format can stand in a text block. They have printable characters of ASCII only, on lines none of
which is empty, and no line but the first starts as a field or as the end of the block does.

A walk through the components passes every place of a value as a part of a separator and the segment behind it, so that
what holds at the places of all such parts holds throughout (`Walk.forall_inside`).
-/
import DocumentaryCredit.Proofs.Format.Compiled
import DocumentaryCredit.Proofs.Format.Search

namespace DocumentaryCredit

/-- The characters of ASCII that are printed, the blank among them. -/
def IsPrinted (c : Char) : Prop := 32 ≤ c.toNat ∧ c.toNat ≤ 126

instance : DecidablePred IsPrinted := fun c => inferInstanceAs (Decidable (32 ≤ c.toNat ∧ c.toNat ≤ 126))

/-- What a text block carries as it is: printed characters and line feeds, on lines that are not empty and do not
start, from the second on, with the characters that start a field and end a block. The empty value has no line. -/
structure IsBlockText (value : String) : Prop where
  printed : ∀ c ∈ value.toList, c = '\n' ∨ IsPrinted c
  lines_ne_empty : ∀ line ∈ Text.lines value, line ≠ ""
  starts : value.toList.head? ≠ some '\n'
  ends : value.toList.getLast? ≠ some '\n'
  opens : ∀ line ∈ (Text.lines value).tail, line.toList.head? ≠ some ':' ∧ line.toList.head? ≠ some '-'

/-! ## Parts of a walk -/

/-- What holds at every place of a separator with its segment holds at every place that a walk passes. -/
theorem Walk.forall_inside {value : List Char} {p q : Nat} {components : List Component} {spans : List (Option Span)}
    {P : Nat → Prop} (hpart : ∀ c ∈ components, ∀ p start stop, c.separator.Takes value p start →
      c.IsSegment value start stop → ∀ i, p ≤ i → i < stop → P i)
    (h : Walk value p components spans q) : ∀ i, p ≤ i → i < q → P i := by
  induction h with
  | done p => intro i hi hlt; omega
  | absent _ _ ih => exact ih fun c hc => hpart c (List.mem_cons_of_mem _ hc)
  | @present p start stop q c rest spans hsep hseg _ ih =>
    intro i hi hlt
    by_cases hstop : i < stop
    · exact hpart c (by simp) p start stop hsep hseg i hi hstop
    · exact ih (fun c hc => hpart c (List.mem_cons_of_mem _ hc)) i (by omega) hlt

/-- Where a separator takes something, it is a slash, or a line break behind the start of the value. -/
theorem Separator.Takes.getElem? {value : List Char} {s : Separator} {p start i : Nat} (h : s.Takes value p start)
    (hi : p ≤ i) (hlt : i < start) : i + 1 = start ∧ (value[i]? = some '/' ∨ 0 < i ∧ value[i]? = some '\n') := by
  cases h with
  | none | opening => omega
  | slash h =>
    obtain rfl : i = p := by omega
    exact ⟨rfl, .inl h⟩
  | newline hp h =>
    obtain rfl : i = p := by omega
    exact ⟨rfl, .inr ⟨Nat.pos_of_ne_zero hp, h⟩⟩

namespace Component

variable {c : Component} {value : List Char} {start stop i : Nat}

/-- Inside of lines, a place holds an admitted character, or a line break with a line before it and one behind it. -/
theorem AreLines.getElem? {n : Nat} (h : c.AreLines value n start stop) (hi : start ≤ i) (hlt : i < stop) :
    (∃ ch, value[i]? = some ch ∧ c.charset.admits ch = true) ∨
      value[i]? = some '\n' ∧ start < i ∧ ∃ ch, value[i + 1]? = some ch ∧ c.charset.admits ch = true := by
  induction h with
  | one h => exact .inl (h.admits.2 i hi hlt)
  | @more n start mid stop h hbreak rest ih =>
    have hnonempty := h.nonempty
    rcases Nat.lt_trichotomy i mid with hmid | rfl | hmid
    · exact .inl (h.admits.2 i hi hmid)
    · refine .inr ⟨hbreak, hnonempty, ?_⟩
      cases rest with
      | one rest => exact rest.admits.2 _ (Nat.le_refl _) rest.nonempty
      | more rest => exact rest.admits.2 _ (Nat.le_refl _) rest.nonempty
    · obtain hadm | ⟨hbreak', hlt', hnext⟩ := ih hmid hlt
      · exact .inl hadm
      · exact .inr ⟨hbreak', by omega, hnext⟩

/-- Inside of a segment, a place holds an admitted character, or a line break between two lines. -/
theorem IsSegment.getElem? (h : c.IsSegment value start stop) (hi : start ≤ i) (hlt : i < stop) :
    (∃ ch, value[i]? = some ch ∧ c.charset.admits ch = true) ∨ c.extent = .repeated ∧
      value[i]? = some '\n' ∧ start < i ∧ ∃ ch, value[i + 1]? = some ch ∧ c.charset.admits ch = true := by
  unfold IsSegment at h
  split at h
  · exact .inl (h.admits.2 i hi hlt)
  · exact .inl (h.admits.2 i hi hlt)
  · next hextent =>
    obtain ⟨_, _, _, h⟩ := h
    exact (h.getElem? hi hlt).imp id fun hbreak => ⟨hextent, hbreak⟩

end Component

/-! ## Characters and line breaks -/

theorem IsPrinted.of_isDigit {c : Char} (h : Text.isDigit c = true) : IsPrinted c := by
  have := Text.isDigit_iff.1 h
  exact ⟨by omega, by omega⟩

theorem IsPrinted.of_isUpper {c : Char} (h : Text.isUpper c = true) : IsPrinted c := by
  have := Text.isUpper_iff.1 h
  exact ⟨by omega, by omega⟩

theorem IsPrinted.of_isLetter {c : Char} (h : Text.isLetter c = true) : IsPrinted c := by
  have := Text.isLetter_iff.1 h
  exact ⟨by omega, by omega⟩

/-- Every set admits printed characters only. -/
theorem Charset.isPrinted_of_admits {set : Charset} {c : Char} (h : set.admits c = true) : IsPrinted c := by
  have hmarks : ∀ c ∈ textMarks ++ extendedMarks, IsPrinted c := by simp [textMarks, extendedMarks, IsPrinted]
  cases set with
  | numeric | date => exact .of_isDigit h
  | alpha => exact .of_isUpper h
  | alphanumeric =>
    simp only [admits, Bool.or_eq_true] at h
    exact h.elim .of_isUpper .of_isDigit
  | decimal =>
    simp only [admits, Bool.or_eq_true, beq_iff_eq] at h
    exact h.elim .of_isDigit fun h => hmarks c (by simp [h, textMarks])
  | freeText =>
    simp only [admits, Bool.or_eq_true, List.contains_iff_mem] at h
    rcases h with (h | h) | h
    · exact .of_isLetter h
    · exact .of_isDigit h
    · exact hmarks c (List.mem_append_left _ h)
  | extendedText =>
    simp only [admits, Bool.or_eq_true, List.contains_iff_mem] at h
    rcases h with ((h | h) | h) | h
    · exact .of_isLetter h
    · exact .of_isDigit h
    · exact hmarks c (List.mem_append_left _ h)
    · exact hmarks c (List.mem_append_right _ h)

section
variable {value : List Char} {c : Component} {p start stop : Nat}

/-- A separator and a segment are line breaks and printed characters. -/
theorem Component.IsSegment.isPrinted (hsep : c.separator.Takes value p start) (hseg : c.IsSegment value start stop) :
    ∀ i, p ≤ i → i < stop → ∀ ch, value[i]? = some ch → ch = '\n' ∨ IsPrinted ch := by
  intro i hi hlt ch hget
  by_cases hstart : i < start
  · obtain ⟨-, hslash | ⟨-, hbreak⟩⟩ := hsep.getElem? hi hstart
    · obtain rfl : '/' = ch := by simpa [hslash] using hget
      exact .inr (by decide)
    · obtain rfl : '\n' = ch := by simpa [hbreak] using hget
      exact .inl rfl
  · obtain ⟨ch', hget', hadm⟩ | ⟨-, hbreak, -⟩ := hseg.getElem? (by omega) hlt
    · obtain rfl : ch' = ch := by simpa [hget'] using hget
      exact .inr (Charset.isPrinted_of_admits hadm)
    · obtain rfl : '\n' = ch := by simpa [hbreak] using hget
      exact .inl rfl

/-- A line break of a separator or a segment is neither the first character of the value nor the last one, and no
other line break is next to it. -/
theorem Component.IsSegment.lineBreak_alone (hc : c.TakesSome) (hsep : c.separator.Takes value p start)
    (hseg : c.IsSegment value start stop) : ∀ i, p ≤ i → i < stop → value[i]? = some '\n' →
      0 < i ∧ ∃ ch, value[i + 1]? = some ch ∧ ch ≠ '\n' := by
  intro i hi hlt hget
  have hnot : ∀ {j : Nat}, (∃ ch, value[j]? = some ch ∧ c.charset.admits ch = true) →
      ∃ ch, value[j]? = some ch ∧ ch ≠ '\n' := by
    intro j ⟨ch, hch, hadm⟩
    refine ⟨ch, hch, ?_⟩
    rintro rfl
    simp [Charset.not_admits_lineBreak] at hadm
  have hnonempty := hseg.start_lt hc
  by_cases hstart : i < start
  · obtain ⟨hnext, hslash | ⟨hpos, -⟩⟩ := hsep.getElem? hi hstart
    · simp [hget] at hslash
    · refine ⟨hpos, ?_⟩
      obtain hadm | ⟨-, -, hlt', -⟩ := hseg.getElem? (i := i + 1) (by omega) (by omega)
      · exact hnot hadm
      · omega
  · obtain hadm | ⟨-, -, hlt', hadm⟩ := hseg.getElem? (by omega) hlt
    · obtain ⟨ch, hch, hne⟩ := hnot hadm
      simp_all
    · exact ⟨by omega, hnot hadm⟩

end

/-! ## Values -/

section
variable {spec value : String} {format : Format} {spans : List (Option Span)}

theorem Format.isPrinted_of_matchSpans (h : format.matchSpans value = .ok spans) :
    ∀ c ∈ value.toList, c = '\n' ∨ IsPrinted c := by
  intro c hc
  obtain ⟨i, hi⟩ := List.mem_iff_getElem?.1 hc
  have hlt := (List.getElem?_eq_some_iff.1 hi).1
  exact (decomposition_of_matchSpans h).walk.forall_inside
    (fun c _ p start stop hsep hseg => Component.IsSegment.isPrinted hsep hseg) i (Nat.zero_le _) hlt c hi

theorem Format.lineBreak_alone_of_matchSpans (hspec : compile spec = .ok format)
    (h : format.matchSpans value = .ok spans) :
    ∀ i, value.toList[i]? = some '\n' → 0 < i ∧ ∃ c, value.toList[i + 1]? = some c ∧ c ≠ '\n' := by
  intro i hi
  have hlt := (List.getElem?_eq_some_iff.1 hi).1
  exact (decomposition_of_matchSpans h).walk.forall_inside (fun c hc p start stop hsep hseg =>
    Component.IsSegment.lineBreak_alone (takesSome_of_compile hspec c hc) hsep hseg) i (Nat.zero_le _) hlt hi

/-- Of the lines that a walk through the whole value passes, only the first may start with `:` or `-`. -/
theorem Walk.opens_of_mem_tail_splitOn {value : List Char} {components : List Component} {spans : List (Option Span)}
    (h : Walk value 0 components spans value.length) :
    ∀ piece ∈ (value.splitOn '\n').tail, ∀ c, piece.head? = some c → c ≠ ':' ∧ c ≠ '-' := by
  intro piece hpiece c hhead
  obtain ⟨i, d, hd, hbreak, hget⟩ := Text.exists_getElem?_of_mem_tail_splitOnP hpiece hhead
  obtain rfl : d = '\n' := by simpa using hbreak
  have hlt := (List.getElem?_eq_some_iff.1 hget).1
  have hgood : ¬ (c = ':' ∨ c = '-') := by
    intro hc
    refine h.not_isBadStart (i + 1) (Nat.zero_le _) hlt ⟨by omega, hd, ?_⟩
    simpa [hget] using hc
  simpa [not_or] using hgood

/-- **A value that is accepted can stand in a text block**, whatever the mix of components, groups and lines that it was
matched by: it is printed on lines that are not empty, and no line but the first starts with `:` or `-`. -/
theorem Format.isBlockText_of_matchSpans (hspec : compile spec = .ok format) (h : format.matchSpans value = .ok spans) :
    IsBlockText value := by
  have hprinted := isPrinted_of_matchSpans h
  have hbreaks := lineBreak_alone_of_matchSpans hspec h
  by_cases hempty : value = ""
  · subst hempty
    have hnone : Text.lines "" = [] := rfl
    exact ⟨hprinted, by simp [hnone], by simp, by simp, by simp [hnone]⟩
  have hne : value.toList ≠ [] := fun hnil => hempty (String.toList_eq_nil_iff.1 hnil)
  have hpieces := Text.ne_nil_of_mem_splitOn hne hbreaks
  have hreturn : '\r' ∉ value.toList := by
    intro hmem
    have hnot : ¬ ('\r' = '\n' ∨ IsPrinted '\r') := by decide
    exact hnot (hprinted _ hmem)
  have hlines := Text.lines_eq_map_splitOn hreturn hpieces
  refine ⟨hprinted, ?_, ?_, ?_, ?_⟩
  · intro line hline
    rw [hlines] at hline
    obtain ⟨piece, hpiece, rfl⟩ := List.mem_map.1 hline
    simpa using hpieces piece hpiece
  · intro hhead
    rw [List.head?_eq_getElem?] at hhead
    exact absurd (hbreaks 0 hhead).1 (Nat.lt_irrefl 0)
  · intro hlast
    rw [List.getLast?_eq_getElem?] at hlast
    obtain ⟨-, c, hc, -⟩ := hbreaks _ hlast
    have := (List.getElem?_eq_some_iff.1 hc).1
    omega
  · intro line hline
    rw [hlines, ← List.map_tail] at hline
    obtain ⟨piece, hpiece, rfl⟩ := List.mem_map.1 hline
    have hopens := (decomposition_of_matchSpans h).walk.opens_of_mem_tail_splitOn piece hpiece
    rw [String.toList_ofList]
    exact ⟨fun h => (hopens _ h).1 rfl, fun h => (hopens _ h).2 rfl⟩

/-- A name and an address without their account, the last line of which is the component behind them. -/
theorem Format.isBlockText_of_matchSpans_address : ∃ format, compile "[/34x]\\n4*35x\\n14x" = .ok format ∧
    format.matchSpans "-AB\nC:D\nBY PAYMENT" = .ok [none, some ⟨0, 7⟩, some ⟨8, 18⟩] ∧
      IsBlockText "-AB\nC:D\nBY PAYMENT" := by
  have hspec : compile "[/34x]\\n4*35x\\n14x" = .ok ⟨"[/34x]\\n4*35x\\n14x", [
      ⟨.variable, .freeText, 1, 34, none, .slash, some 0⟩,
      ⟨.repeated, .freeText, 1, 35, some 4, .newline, none⟩,
      ⟨.variable, .freeText, 1, 14, none, .newline, none⟩]⟩ := by decide +kernel
  exact ⟨_, hspec, rfl, isBlockText_of_matchSpans hspec rfl⟩

end

end DocumentaryCredit

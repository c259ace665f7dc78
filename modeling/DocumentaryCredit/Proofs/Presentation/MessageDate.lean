/-
The dates of messages as the comparison reads them. The format `6!n29x` is a date of six digits with a place behind it.
The comparison knows no formats: of a text that starts with six or eight digits it reads these, and the place may start
with digits of its own. So both agree on the date exactly when the place does not start with a digit.
-/
import DocumentaryCredit.Presentation.Value
import DocumentaryCredit.Proofs.Calendar
import DocumentaryCredit.Proofs.Format.Search
import DocumentaryCredit.Proofs.Message.Field

namespace DocumentaryCredit

open Text

/-! ## Digits with text behind them -/

/-- Of a text on one line the digits in front decide what date it states: all of them, when they are six or eight, and
no date, when they are more than four otherwise. -/
theorem parseDate?_of_digits {value : String} {digits rest : List Char} (hvalue : value.toList = digits ++ rest)
    (hdigits : ∀ c ∈ digits, isDigit c = true) (hrest : ∀ c ∈ rest.head?, isDigit c = false)
    (hline : '\n' ∉ value.toList) (hmany : 4 < digits.length) :
    parseDate? value = if digits.length = 6 ∨ digits.length = 8 then Date.ofDigits? digits else none := by
  have hfirst : ∀ c ∈ value.toList.head?, isBlankChar c = false := by
    intro c hc
    rw [hvalue, List.head?_append_of_ne_nil _ (List.ne_nil_of_length_pos (by omega))] at hc
    exact isBlankChar_of_isDigit (hdigits c (List.mem_of_mem_head? hc))
  have hlineOf : value.toList.takeWhile (· != '\n') = value.toList :=
    List.takeWhile_eq_self_iff.2 fun c hc => by
      rw [bne_iff_ne]
      rintro rfl
      exact hline hc
  have hrun : (trimChars isBlankChar value.toList).takeWhile isDigit = digits := by
    rw [takeWhile_trimChars hfirst fun c hc => ?_, hvalue, List.takeWhile_append_of_pos hdigits]
    · cases rest with
      | nil => simp
      | cons c rest => simp [hrest c rfl]
    · by_contra hdigit
      rw [Bool.not_eq_false] at hdigit
      rw [isBlankChar_of_isDigit hdigit] at hc
      cases hc
  -- The digits stay in front when the end of the line is trimmed, so that the layouts see them too.
  obtain ⟨behind, hbehind⟩ : ∃ behind, trimChars isBlankChar value.toList = digits ++ behind :=
    ⟨_, (hrun ▸ List.takeWhile_append_dropWhile).symm⟩
  unfold parseDate?
  simp only [hlineOf, hrun, Bool.or_eq_true, decide_eq_true_eq]
  split
  · rfl
  · rw [hbehind]
    exact Layout.findSome?_onDocuments_of_digits hdigits hmany

theorem parseDate?_of_isBlank {value : String} (h : isBlank value = true) : parseDate? value = none := by
  have hblank : ∀ c ∈ value.toList.takeWhile (· != '\n'), isBlankChar c = true := fun c hc =>
    List.all_eq_true.1 h c ((List.takeWhile_sublist _).subset hc)
  have hline : trimChars isBlankChar (value.toList.takeWhile (· != '\n')) = [] := by
    simp [trimChars, List.dropWhile_eq_nil_iff.2 hblank]
  unfold parseDate?
  simp only [hline]
  decide +kernel

/-! ## Dates of messages -/

/-- The format of a date with a place behind it. -/
def datedPlace : Format where
  spec := "6!n29x"
  components := [
    ⟨.fixed, .numeric, 6, 6, none, .none, none⟩,
    ⟨.variable, .freeText, 1, 29, none, .none, none⟩]

theorem compile_datedPlace : Format.compile "6!n29x" = .ok datedPlace := by decide +kernel

/-- A value of the format is six digits and a place on the same line. -/
structure IsDatedPlace (cs digits place : List Char) : Prop where
  text : cs = digits ++ place
  length : digits.length = 6
  digits : ∀ c ∈ digits, isDigit c = true
  place : ∀ c ∈ place, Charset.freeText.admits c = true

theorem IsDatedPlace.not_mem_lineBreak {cs digits place : List Char} (h : IsDatedPlace cs digits place) :
    '\n' ∉ cs := by
  rw [h.text, List.mem_append]
  rintro (hmem | hmem)
  · exact absurd (h.digits _ hmem) (by decide)
  · exact absurd (h.place _ hmem) (by decide)

theorem exists_isDatedPlace {value : String} {spans : List (Option Span)}
    (h : datedPlace.matchSpans value = .ok spans) :
    ∃ digits place, IsDatedPlace value.toList digits place ∧
      Format.segment? value spans 0 = some (String.ofList digits) ∧
      Format.segment? value spans 1 = some (String.ofList place) := by
  obtain ⟨cut, rfl, hfirst, hsecond⟩ :=
    (Format.decomposition_of_matchSpans h).walk.exists_cut ⟨rfl, rfl⟩ ⟨rfl, rfl⟩
  have hfirst : Component.IsRun _ value.toList 6 6 0 cut := hfirst
  have hsecond : Component.IsRun _ value.toList 1 29 cut value.toList.length := hsecond
  obtain rfl : cut = 6 := Nat.le_antisymm hfirst.greatest hfirst.least
  have hrest : Span.slice ⟨6, value.toList.length⟩ value.toList = value.toList.drop 6 :=
    List.take_of_length_le (by simp)
  have hplace := hsecond.admits.admits_of_mem_slice
  rw [hrest] at hplace
  refine ⟨value.toList.take 6, value.toList.drop 6, ⟨?_, ?_, hfirst.admits.admits_of_mem_slice, hplace⟩, rfl, ?_⟩
  · rw [List.take_append_drop]
  · exact List.length_take_of_le (Nat.le_of_lt hsecond.least)
  · rw [← hrest]
    rfl

/-- The comparison takes the digits that a place starts with for digits of the date. -/
theorem IsDatedPlace.parseDate? {value : String} {digits place : List Char}
    (h : IsDatedPlace value.toList digits place) :
    DocumentaryCredit.parseDate? value =
      if (place.takeWhile isDigit).length = 0 ∨ (place.takeWhile isDigit).length = 2
      then Date.ofDigits? (digits ++ place.takeWhile isDigit) else none := by
  have hrun : ∀ c ∈ digits ++ place.takeWhile isDigit, isDigit c = true := by
    intro c hc
    rcases List.mem_append.1 hc with hc | hc
    · exact h.digits c hc
    · exact List.mem_takeWhile_imp hc
  have hsplit : value.toList = (digits ++ place.takeWhile isDigit) ++ place.dropWhile isDigit := by
    rw [List.append_assoc, List.takeWhile_append_dropWhile, h.text]
  have hlength : (digits ++ place.takeWhile isDigit).length = 6 + (place.takeWhile isDigit).length := by
    rw [List.length_append, h.length]
  rw [parseDate?_of_digits hsplit hrun head?_dropWhile_eq_false h.not_mem_lineBreak (by omega)]
  exact if_congr (by omega) rfl rfl

/-- The date of the six digits is read exactly where no digit follows them. -/
theorem IsDatedPlace.parseDate?_eq_some_iff {value : String} {digits place : List Char} {date : Date}
    (h : IsDatedPlace value.toList digits place) (hdate : Date.ofDigits? digits = some date) :
    DocumentaryCredit.parseDate? value = some date ↔ ∀ c ∈ place.head?, isDigit c = false := by
  have hfirst : (∀ c ∈ place.head?, isDigit c = false) ↔ place.takeWhile isDigit = [] := by
    cases place with
    | nil => simp
    | cons c place => cases hc : isDigit c <;> simp [hc]
  rw [h.parseDate?, hfirst]
  constructor
  · intro hread
    split at hread
    · next hlength =>
      rcases hlength with hzero | htwo
      · exact List.eq_nil_of_length_eq_zero hzero
      · exact absurd hread (Date.ofDigits?_append_ne h.length htwo hdate)
    · cases hread
  · intro hnil
    rw [hnil, if_pos (.inl rfl), List.append_nil, hdate]

/-- **The date of a message is read as it was checked exactly where no digit follows it.** What is accepted of a field
with the format `6!n29x` and a date rule for its first component is blank, and states no date, or it is a date of six
digits with a place behind it. The comparison reads this date when the place does not start with a digit. When it does,
the digits of the place count: with two of them the eight digits in front are read, which are never the same day, and
otherwise no date is. -/
theorem parseDate?_of_isValid {d : FieldDefinition} {format : Format} {value : String}
    (hspec : d.formatSpec = "6!n29x") (hformat : Format.compile d.formatSpec = .ok format) (hrule : .date 0 ∈ d.rules)
    (hvalid : (d.validate format (some value)).isValid = true) :
    (isBlank value = true ∧ parseDate? value = none) ∨
      ∃ spans digits place date, format.matchSpans value = .ok spans ∧ IsDatedPlace value.toList digits place ∧
        Format.segment? value spans 0 = some (String.ofList digits) ∧
        Format.segment? value spans 1 = some (String.ofList place) ∧
        Date.ofDigits? digits = some date ∧
        (parseDate? value = some date ↔ ∀ c ∈ place.head?, isDigit c = false) ∧
        parseDate? value =
          if (place.takeWhile isDigit).length = 0 ∨ (place.takeWhile isDigit).length = 2
          then Date.ofDigits? (digits ++ place.takeWhile isDigit) else none := by
  rw [hspec, compile_datedPlace] at hformat
  cases hformat
  rw [FieldDefinition.isValid_validate_iff] at hvalid
  cases hblank : isBlank value with
  | true => exact .inl ⟨rfl, parseDate?_of_isBlank hblank⟩
  | false =>
    obtain ⟨spans, hspans, hrules⟩ := d.exists_matchSpans hblank hvalid
    obtain ⟨digits, place, hplace, hfirst, hsecond⟩ := exists_isDatedPlace hspans
    -- A value of this format has no line break, so that it was matched as it is.
    have hvalue : normalizeLineBreaks value = value := normalizeLineBreaks_eq_self_of_not_mem hplace.not_mem_lineBreak
    rw [hvalue] at hspans hplace hfirst hsecond hrules
    obtain ⟨date, hdate⟩ := FieldRule.exists_date_of_failure? (hrules _ hrule) hfirst
    rw [String.toList_ofList] at hdate
    exact .inr ⟨spans, digits, place, date, hspans, hplace, hfirst, hsecond, hdate, hplace.parseDate?_eq_some_iff hdate,
      hplace.parseDate?⟩

/-- The date and place where a credit expires. -/
def expiryField : FieldDefinition where
  tag := "31D"
  name := "Date and Place of Expiry"
  formatSpec := "6!n29x"
  isMandatory := true
  sequence := 7
  allowedValues := none
  maxOccurrences := 1
  rules := [.date 0, .crossField ⟨.dateNotBefore, "31C"⟩]

/-- A place that starts with a letter leaves the date alone. -/
theorem parseDate?_of_isValid_london :
    (expiryField.validate datedPlace (some "240930LONDON")).isValid = true ∧
      ∃ digits place date, IsDatedPlace "240930LONDON".toList digits place ∧ Date.ofDigits? digits = some date ∧
        (parseDate? "240930LONDON" = some date ↔ ∀ c ∈ place.head?, isDigit c = false) := by
  have hvalid : (expiryField.validate datedPlace (some "240930LONDON")).isValid = true := by decide +kernel
  refine ⟨hvalid, ?_⟩
  rcases parseDate?_of_isValid rfl compile_datedPlace (by decide) hvalid with ⟨hblank, -⟩ |
      ⟨-, digits, place, date, -, hplace, -, -, hdate, hread, -⟩
  · exact absurd hblank (by decide)
  · exact ⟨digits, place, date, hplace, hdate, hread⟩

/-- A place that starts with two digits moves it: the field holds the twelfth of December 2020, and the tenth of
December 2012 is read. -/
theorem parseDate?_two_digits_behind :
    Format.compile expiryField.formatSpec = .ok datedPlace ∧ .date 0 ∈ expiryField.rules ∧
      (expiryField.validate datedPlace (some "20121210LONDON")).isValid = true ∧
      ∃ spans, datedPlace.matchSpans "20121210LONDON" = .ok spans ∧
        Format.segment? "20121210LONDON" spans 0 = some "201212" ∧
        Date.ofDigits? "201212".toList = Date.make? 2020 12 12 ∧
        parseDate? "20121210LONDON" = Date.make? 2012 12 10 ∧
        parseDate? "20121210LONDON" ≠ Date.ofDigits? "201212".toList := by
  refine ⟨compile_datedPlace, by decide, by decide +kernel, [some ⟨0, 6⟩, some ⟨6, 14⟩], by decide +kernel,
    by decide +kernel, by decide +kernel, by decide +kernel, by decide +kernel⟩

end DocumentaryCredit

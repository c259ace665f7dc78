/-
The amounts of messages as the comparison reads them. The format `3!a15d` is a currency followed by a number with a
comma as its decimal mark; the comparison reads documents of all kinds, and takes a mark with exactly three digits
behind it for one that separates thousands. On every other amount of that format the two agree.
-/
import DocumentaryCredit.Presentation.Value
import DocumentaryCredit.Proofs.Decimal
import DocumentaryCredit.Proofs.Format.Search
import Mathlib.Tactic.NormNum

namespace DocumentaryCredit

open Text

/-! ## Numbers with one mark -/

section Numbers

variable {whole fraction : List Char} {mark : Char}

theorem isMark_eq_false_of_isDigit {c : Char} (h : isDigit c = true) : isMark c = false := by
  have hc := isDigit_iff.1 h
  simp only [isMark, Bool.or_eq_false_iff, beq_eq_false_iff_ne]
  constructor <;> rintro rfl <;> revert hc <;> decide

theorem count_mark_eq_zero (h : ∀ c ∈ whole, isDigit c = true) (hmark : isMark mark = true) : whole.count mark = 0 := by
  rw [List.count_eq_zero]
  intro hmem
  rw [isMark_eq_false_of_isDigit (h mark hmem)] at hmark
  cases hmark

theorem loneMark?_append (hwhole : ∀ c ∈ whole, isDigit c = true) (hmark : isMark mark = true) (fraction : List Char) :
    loneMark? (whole ++ mark :: fraction) mark = if fraction.length = 3 then none else some mark := by
  have hdrop : (whole ++ mark :: fraction).dropWhile (· != mark) = mark :: fraction := by
    rw [List.dropWhile_append_of_pos]
    · simp
    · intro c hc
      simp only [bne_iff_ne]
      rintro rfl
      rw [isMark_eq_false_of_isDigit (hwhole c hc)] at hmark
      cases hmark
  simp [loneMark?, hdrop]

/-- A mark between digits is the decimal mark unless exactly three digits follow it. -/
theorem decimalMark?_append (hdigits : ∀ c ∈ whole ++ fraction, isDigit c = true) (hmark : isMark mark = true) :
    decimalMark? (whole ++ mark :: fraction) = if fraction.length = 3 then none else some mark := by
  have hwhole : ∀ c ∈ whole, isDigit c = true := fun c hc => hdigits c (List.mem_append_left _ hc)
  have hfraction : ∀ c ∈ fraction, isDigit c = true := fun c hc => hdigits c (List.mem_append_right _ hc)
  have hlone := loneMark?_append hwhole hmark fraction
  have hcount : ∀ m, isMark m = true → (whole ++ mark :: fraction).count m = if mark = m then 1 else 0 := by
    intro m hm
    rw [List.count_append, List.count_cons, count_mark_eq_zero hwhole hm, count_mark_eq_zero hfraction hm]
    simp
  unfold decimalMark?
  rw [hcount ',' rfl, hcount '.' rfl]
  obtain rfl | rfl : mark = ',' ∨ mark = '.' := by simpa [isMark] using hmark
  · simpa using hlone
  · simpa using hlone

theorem filterMap_digits {cs : List Char} (h : ∀ c ∈ cs, isDigit c = true) (f : Char → Option Char) :
    (cs.filterMap fun c => if !isMark c then some c else f c) = cs := by
  rw [List.filterMap_congr (g := some) fun c hc => by simp [isMark_eq_false_of_isDigit (h c hc)]]
  exact List.filterMap_some

theorem getLast?_digits_ne {cs : List Char} (h : ∀ c ∈ cs, isDigit c = true) : cs.getLast? ≠ some '.' :=
  fun hlast => absurd (h '.' (List.mem_of_getLast? hlast)) (by decide)

/-- Of a number with one mark the digits are left, with a point for the mark where it stands before a fraction. -/
theorem plainNumber_append (hdigits : ∀ c ∈ whole ++ fraction, isDigit c = true) (hmark : isMark mark = true) :
    plainNumber (whole ++ mark :: fraction) =
      if fraction.length = 3 then whole ++ fraction else if fraction = [] then whole else whole ++ '.' :: fraction := by
  have hwhole : ∀ c ∈ whole, isDigit c = true := fun c hc => hdigits c (List.mem_append_left _ hc)
  have hfraction : ∀ c ∈ fraction, isDigit c = true := fun c hc => hdigits c (List.mem_append_right _ hc)
  have hdecimal := decimalMark?_append hdigits hmark
  unfold plainNumber
  by_cases hthree : fraction.length = 3
  · rw [if_pos hthree] at hdecimal ⊢
    simp only [hdecimal, List.filterMap_append, List.filterMap_cons, filterMap_digits hwhole,
      filterMap_digits hfraction, hmark]
    exact if_neg (getLast?_digits_ne hdigits)
  rw [if_neg hthree] at hdecimal ⊢
  simp only [hdecimal, List.filterMap_append, List.filterMap_cons, filterMap_digits hwhole,
    filterMap_digits hfraction, hmark]
  by_cases hnil : fraction = []
  · subst hnil
    simp
  · have hlast : (whole ++ '.' :: fraction).getLast? = fraction.getLast? := by
      rw [← List.singleton_append, ← List.append_assoc, List.getLast?_append_of_ne_nil _ hnil]
    rw [if_neg hnil]
    exact if_neg (hlast ▸ getLast?_digits_ne hfraction)

theorem readDecimal?_eq_read? {cs rest : List Char} {c : Char} (hcs : cs = c :: rest) (hc : isDigit c = true)
    (hchars : ∀ d ∈ cs, isDigit d = true ∨ isMark d = true) : readDecimal? cs = Decimal.read? (plainNumber cs) := by
  have hall : cs.all isNumberChar = true := List.all_eq_true.2 fun d hd => by simp [isNumberChar, hchars d hd]
  have hfirst : cs.head?.any isDigit = true := by simp [hcs, hc]
  rw [readDecimal?, hfirst, hall]
  rfl

/-- **A number with one mark** has the digits behind the mark as its fraction, but for three of them, which belong to
a whole number. -/
theorem readDecimal?_append (hne : whole ≠ []) (hdigits : ∀ c ∈ whole ++ fraction, isDigit c = true)
    (hlength : (whole ++ fraction).length ≤ 28) (hmark : isMark mark = true) :
    ∃ a, readDecimal? (whole ++ mark :: fraction) = some a ∧
      if fraction.length = 3 then a.Spells (whole ++ fraction) [] else a.Spells whole fraction := by
  have hread : readDecimal? (whole ++ mark :: fraction) = Decimal.read? (plainNumber (whole ++ mark :: fraction)) := by
    obtain ⟨c, cs, hcs⟩ := List.exists_cons_of_ne_nil hne
    refine readDecimal?_eq_read? (by rw [hcs, List.cons_append]) (hdigits c (by simp [hcs])) fun d hd => ?_
    rw [List.mem_append, List.mem_cons, or_left_comm, ← List.mem_append] at hd
    rcases hd with rfl | hd
    · exact .inr hmark
    · exact .inl (hdigits d hd)
  rw [hread, plainNumber_append hdigits hmark]
  by_cases hthree : fraction.length = 3
  · simp only [if_pos hthree]
    exact Decimal.read?_whole (by simp [hne]) hdigits hlength
  by_cases hnil : fraction = []
  · subst hnil
    rw [List.append_nil] at hdigits hlength
    simp only [List.length_nil, if_neg (show ¬ 0 = 3 by decide), if_true]
    exact Decimal.read?_whole hne hdigits hlength
  · simp only [if_neg hthree, if_neg hnil]
    exact Decimal.read?_point hne hdigits hlength

end Numbers

/-! ## Amounts of messages -/

/-- The code of a currency, digits, a comma, and the digits of the fraction. -/
structure IsMessageAmount (cs code whole fraction : List Char) : Prop where
  text : cs = code ++ (whole ++ ',' :: fraction)
  codeLength : code.length = 3
  capitals : ∀ c ∈ code, isUpper c = true
  nonempty : whole ≠ []
  digits : ∀ c ∈ whole ++ fraction, isDigit c = true
  length : (whole ++ fraction).length ≤ 14

/-- Digits with exactly one comma are the digits before it and those behind it. -/
theorem exists_append_of_isDecimal {run : List Char} (hrun : ∀ c ∈ run, Charset.decimal.admits c = true)
    (h : Charset.isDecimal run = true) :
    ∃ whole fraction, run = whole ++ ',' :: fraction ∧ whole ≠ [] ∧ ∀ c ∈ whole ++ fraction, isDigit c = true := by
  simp only [Charset.isDecimal, Bool.and_eq_true, beq_iff_eq] at h
  obtain ⟨hcount, hfirst⟩ := h
  obtain ⟨whole, fraction, rfl⟩ := List.append_of_mem (List.count_pos_iff.1 (show 0 < run.count ',' by omega))
  refine ⟨whole, fraction, rfl, ?_, fun c hc => ?_⟩
  · rintro rfl
    simp at hfirst
    revert hfirst
    decide
  · have hadm := hrun c (by rw [List.mem_append, List.mem_cons] at *; tauto)
    have hcomma : c ≠ ',' := by
      rintro rfl
      have := List.count_pos_iff.2 hc
      rw [List.count_append, List.count_cons_self] at hcount
      rw [List.count_append] at this
      omega
    simpa [Charset.admits, hcomma] using hadm

theorem IsMessageAmount.not_isBlankChar {cs code whole fraction : List Char}
    (h : IsMessageAmount cs code whole fraction) : ∀ c ∈ cs, isBlankChar c = false := by
  intro c hc
  rw [h.text, List.mem_append, List.mem_append, List.mem_cons] at hc
  have hcases : c ∈ code ∨ c = ',' ∨ c ∈ whole ++ fraction := by
    rw [List.mem_append]
    tauto
  rcases hcases with hcode | rfl | hdigit
  · have := isUpper_iff.1 (h.capitals c hcode)
    exact isBlankChar_eq_false (by omega) (by omega)
  · rfl
  · exact isBlankChar_of_isDigit (h.digits c hdigit)

/-- Digits and letters are no signs of currencies. -/
theorem find?_currencySigns_eq_none {c : Char} (hleast : 48 ≤ c.toNat) (hgreatest : c.toNat ≤ 122) :
    currencySigns.find? (·.1 == c) = none := by
  simp only [List.find?_eq_none, beq_iff_eq]
  intro sign hsign
  simp only [currencySigns, List.mem_cons, List.not_mem_nil, or_false] at hsign
  rcases hsign with rfl | rfl | rfl | rfl <;> rintro rfl <;> revert hleast hgreatest <;> decide

theorem currencyCode?_of_isLetter {code : List Char} (hlength : code.length = 3)
    (hletters : ∀ c ∈ code, isLetter c = true) : currencyCode? code = some (asciiUpper (String.ofList code)) := by
  have hall : code.all isLetter = true := List.all_eq_true.2 hletters
  simp [currencyCode?, asciiUpper, hlength, hall]

/-- A code in front of a number is split off, and written in capitals. -/
theorem splitCurrency_append {code number : List Char} (hlength : code.length = 3)
    (hletters : ∀ c ∈ code, isLetter c = true) (hne : number ≠ []) :
    splitCurrency (code ++ number) = (some (asciiUpper (String.ofList code)), number) := by
  have hsign : ((code ++ number).head?.bind fun c => currencySigns.find? (·.1 == c)) = none := by
    obtain ⟨c, rest, rfl⟩ := List.exists_cons_of_ne_nil (List.ne_nil_of_length_pos (show 0 < code.length by omega))
    have hc := isLetter_iff.1 (hletters c (by simp))
    exact find?_currencySigns_eq_none (by omega) (by omega)
  have hlong : ¬ (code ++ number).length ≤ 3 := by
    have := List.length_pos_of_ne_nil hne
    rw [List.length_append]
    omega
  unfold splitCurrency
  rw [hsign]
  simp only [if_neg hlong]
  rw [List.take_left' hlength, currencyCode?_of_isLetter hlength hletters, List.drop_left' hlength]

theorem IsMessageAmount.parseAmount? {s : String} {code whole fraction : List Char}
    (h : IsMessageAmount s.toList code whole fraction) :
    ∃ a, DocumentaryCredit.parseAmount? s = some ⟨some (String.ofList code), a⟩ ∧
      if fraction.length = 3 then a.Spells (whole ++ fraction) [] else a.Spells whole fraction := by
  have hlength := h.length
  obtain ⟨a, hread, hspells⟩ := readDecimal?_append h.nonempty h.digits (by omega) (show isMark ',' = true from rfl)
  have hfilter : s.toList.filter (!isBlankChar ·) = s.toList :=
    List.filter_eq_self.2 fun c hc => by simp [h.not_isBlankChar c hc]
  refine ⟨a, ?_, hspells⟩
  have hletters : ∀ c ∈ code, isLetter c = true := fun c hc => by simp [isLetter, h.capitals c hc]
  have hupper : asciiUpper (String.ofList code) = String.ofList code := by
    rw [asciiUpper, String.toList_ofList, map_toUpper_eq_self fun c hc => (isUpper_iff.1 (h.capitals c hc)).2]
  unfold DocumentaryCredit.parseAmount?
  rw [hfilter, h.text, splitCurrency_append h.codeLength hletters (by simp), hupper]
  simp [hread]

/-- The format of amounts: a currency and a number. -/
def amountFormat : Format where
  spec := "3!a15d"
  components := [
    ⟨.fixed, .alpha, 3, 3, none, .none, none⟩,
    ⟨.variable, .decimal, 1, 15, none, .none, none⟩]

theorem compile_amountFormat : Format.compile "3!a15d" = .ok amountFormat := by decide +kernel

/-- The format cuts a value behind its first three characters. -/
theorem runs_of_matchSpans {value : String} {spans : List (Option Span)}
    (h : amountFormat.matchSpans value = .ok spans) :
    spans = [some ⟨0, 3⟩, some ⟨3, value.toList.length⟩] ∧
      Component.IsRun ⟨.fixed, .alpha, 3, 3, none, .none, none⟩ value.toList 3 3 0 3 ∧
      Component.IsRun ⟨.variable, .decimal, 1, 15, none, .none, none⟩ value.toList 1 15 3 value.toList.length := by
  obtain ⟨cut, rfl, hcode, hnumber⟩ :=
    (Format.decomposition_of_matchSpans h).walk.exists_cut ⟨rfl, rfl⟩ ⟨rfl, rfl⟩
  have hcode : Component.IsRun _ value.toList 3 3 0 cut := hcode
  obtain rfl : cut = 3 := Nat.le_antisymm hcode.greatest hcode.least
  exact ⟨rfl, hcode, hnumber⟩

/-- What the format accepts is an amount of a message: the first segment is its currency, the second its number. -/
theorem exists_isMessageAmount {value : String} {spans : List (Option Span)}
    (h : amountFormat.matchSpans value = .ok spans) :
    ∃ code whole fraction, IsMessageAmount value.toList code whole fraction ∧
      Format.segment? value spans 0 = some (String.ofList code) ∧
      Format.segment? value spans 1 = some (String.ofList (whole ++ ',' :: fraction)) := by
  obtain ⟨rfl, hcode, hnumber⟩ := runs_of_matchSpans h
  have hstart : Span.slice ⟨0, 3⟩ value.toList = value.toList.take 3 := rfl
  have hrest : Span.slice ⟨3, value.toList.length⟩ value.toList = value.toList.drop 3 :=
    List.take_of_length_le (by simp)
  have hcapitals := hcode.admits.admits_of_mem_slice
  have hmarks := hnumber.admits.admits_of_mem_slice
  have hdecimal := hnumber.wellFormed
  have hlong := hnumber.admits.1
  have hwidth := hnumber.greatest
  rw [hrest] at hmarks hdecimal
  obtain ⟨whole, fraction, hrun, hne, hdigits⟩ := exists_append_of_isDecimal hmarks hdecimal
  have hlength := congrArg List.length hrun
  rw [List.length_drop, List.length_append, List.length_cons] at hlength
  refine ⟨value.toList.take 3, whole, fraction, ⟨?_, ?_, hcapitals, hne, hdigits, ?_⟩, rfl, ?_⟩
  · rw [← hrun, List.take_append_drop]
  · rw [List.length_take]
    omega
  · rw [List.length_append]
    omega
  · rw [← hrun, ← hrest]
    rfl

/-- **Amounts of messages are read as their format means them**, but for those with exactly three digits behind the
comma, which are read as whole numbers: what the format accepts is a currency in capitals and a number with one comma,
and the comparison reads that currency and the decimal with the digits behind the comma as its fraction. -/
theorem parseAmount?_of_matchSpans {format : Format} {value : String} {spans : List (Option Span)}
    (hformat : Format.compile "3!a15d" = .ok format) (h : format.matchSpans value = .ok spans) :
    ∃ code whole fraction, IsMessageAmount value.toList code whole fraction ∧
      Format.segment? value spans 0 = some (String.ofList code) ∧
      Format.segment? value spans 1 = some (String.ofList (whole ++ ',' :: fraction)) ∧
      ∃ a, parseAmount? value = some ⟨some (String.ofList code), a⟩ ∧
        if fraction.length = 3 then a.Spells (whole ++ fraction) [] else a.Spells whole fraction := by
  rw [compile_amountFormat] at hformat
  cases hformat
  obtain ⟨code, whole, fraction, hamount, hfirst, hsecond⟩ := exists_isMessageAmount h
  exact ⟨code, whole, fraction, hamount, hfirst, hsecond, hamount.parseAmount?⟩

/-- Two digits behind the comma are a fraction. -/
theorem parseAmount?_of_matchSpans_cents :
    ∃ format spans, Format.compile "3!a15d" = .ok format ∧ format.matchSpans "USD500000,00" = .ok spans ∧
      ∃ code whole fraction, IsMessageAmount "USD500000,00".toList code whole fraction ∧
        ∃ a, parseAmount? "USD500000,00" = some ⟨some (String.ofList code), a⟩ ∧
          if fraction.length = 3 then a.Spells (whole ++ fraction) [] else a.Spells whole fraction := by
  have hmatch : amountFormat.matchSpans "USD500000,00" = .ok [some ⟨0, 3⟩, some ⟨3, 12⟩] := rfl
  obtain ⟨code, whole, fraction, hamount, -, -, hread⟩ := parseAmount?_of_matchSpans compile_amountFormat hmatch
  exact ⟨amountFormat, _, compile_amountFormat, hmatch, code, whole, fraction, hamount, hread⟩

/-- Three digits behind the comma are not: what a message means as one and a part is read as a thousand times that. -/
theorem parseAmount?_three_digits :
    ∃ format spans a, Format.compile "3!a15d" = .ok format ∧ format.matchSpans "USD1,234" = .ok spans ∧
      IsMessageAmount "USD1,234".toList "USD".toList ['1'] ['2', '3', '4'] ∧
      parseAmount? "USD1,234" = some ⟨some "USD", a⟩ ∧ ¬ a.Spells ['1'] ['2', '3', '4'] ∧
      a.Spells ['1', '2', '3', '4'] [] := by
  refine ⟨amountFormat, [some ⟨0, 3⟩, some ⟨3, 8⟩], ⟨1234, 0, by norm_num, by norm_num⟩, compile_amountFormat, rfl,
    ⟨rfl, rfl, List.all_eq_true.1 rfl, by simp, List.all_eq_true.1 rfl, by simp⟩, by decide +kernel, fun h => ?_,
    ⟨rfl, rfl⟩⟩
  cases h.scale

end DocumentaryCredit

/-
The usual writings of an amount: with either decimal mark, with or without marks between groups of three digits, and
with the code of a currency in front or behind, however white space is strewn in. Main statement: all of them are read
as the same amount, the one whose digits before and after the decimal mark they have. The one writing that is left out
is ambiguous: a lone mark with exactly three digits behind it separates thousands.

Which mark is the decimal one is decided by counting. A text in groups of three has one group mark, with three digits
behind it, or several, and where a fraction follows, its mark is the other one and comes last.
-/
import DocumentaryCredit.Proofs.Presentation.MessageAmount

namespace DocumentaryCredit

open Text

/-! ## Writings -/

/-- The digits of a whole number in groups of three, with a mark before each group but the first, which has one to
three digits. -/
inductive InThrees (mark : Char) : List Char → List Char → Prop where
  | two {first last : List Char} (hfirst : first ≠ []) (hshort : first.length ≤ 3) (hlast : last.length = 3) :
      InThrees mark (first ++ last) (first ++ mark :: last)
  | more {digits text last : List Char} (h : InThrees mark digits text) (hlast : last.length = 3) :
      InThrees mark (digits ++ last) (text ++ mark :: last)

/-- The texts of a number with digits before and after its decimal mark. -/
inductive NumberText (whole fraction : List Char) : List Char → Prop where
  | plain (hnone : fraction = []) : NumberText whole fraction whole
  /-- With a decimal mark; behind a lone mark three digits are no fraction. -/
  | marked {mark : Char} (hmark : isMark mark = true) (hthree : fraction.length ≠ 3) :
      NumberText whole fraction (whole ++ mark :: fraction)
  | grouped {mark : Char} {text : List Char} (hmark : isMark mark = true) (hnone : fraction = [])
      (h : InThrees mark whole text) : NumberText whole fraction text
  /-- With group marks and the other mark for the decimal one. -/
  | groupedMarked {mark other : Char} {text : List Char} (hmark : isMark mark = true) (hother : isMark other = true)
      (hne : other ≠ mark) (hsome : fraction ≠ []) (h : InThrees mark whole text) :
      NumberText whole fraction (text ++ other :: fraction)

/-- A text with white space strewn in. -/
inductive Spaced : List Char → List Char → Prop where
  | nil : Spaced [] []
  | char {c : Char} {text spaced : List Char} (h : Spaced text spaced) : Spaced (c :: text) (c :: spaced)
  | blank {c : Char} {text spaced : List Char} (hc : isBlankChar c = true) (h : Spaced text spaced) :
      Spaced text (c :: spaced)

/-- A code of three letters, in either case, in front of a number or behind it. -/
inductive WithCode (code number : List Char) : List Char → Prop where
  | front : WithCode code number (code ++ number)
  | behind : WithCode code number (number ++ code)

theorem Decimal.Spells.unique {a b : Decimal} {whole fraction : List Char} (ha : a.Spells whole fraction)
    (hb : b.Spells whole fraction) : a = b := by
  obtain ⟨mantissa, scale, _, _⟩ := a
  obtain ⟨mantissa', scale', _, _⟩ := b
  obtain ⟨rfl, rfl⟩ := ha
  obtain ⟨rfl, rfl⟩ := hb
  rfl

/-! ## Decimal marks -/

section Marks

variable {cs digits text whole fraction : List Char} {mark other : Char}

/-- A mark that stands several times over, and alone, separates thousands. -/
theorem decimalMark?_of_many (hmark : isMark mark = true) (hmany : 1 < cs.count mark)
    (halone : ∀ other, isMark other = true → other ≠ mark → cs.count other = 0) : decimalMark? cs = none := by
  unfold decimalMark?
  obtain rfl | rfl : mark = ',' ∨ mark = '.' := by simpa [isMark] using hmark
  · simp [halone '.' rfl (by decide), hmany]
  · have hpoints : cs.count '.' ≠ 0 := by omega
    simp [halone ',' rfl (by decide), hpoints, hmany]

/-- Of both marks the last one is the decimal mark. -/
theorem decimalMark?_of_both (hmark : isMark mark = true) (hother : isMark other = true) (hne : other ≠ mark)
    (hcount : 0 < cs.count mark) (hcountOther : 0 < cs.count other) : decimalMark? cs = cs.reverse.find? isMark := by
  have hboth : cs.count ',' ≠ 0 ∧ cs.count '.' ≠ 0 := by
    obtain rfl | rfl : mark = ',' ∨ mark = '.' := by simpa [isMark] using hmark
    all_goals obtain rfl | rfl : other = ',' ∨ other = '.' := by simpa [isMark] using hother
    all_goals first | exact absurd rfl hne | exact ⟨by omega, by omega⟩
  simp [decimalMark?, hboth]

namespace InThrees

/-- The text starts with a digit of the number. -/
theorem exists_cons (h : InThrees mark digits text) : ∃ c ds cs, digits = c :: ds ∧ text = c :: cs := by
  induction h with
  | two hfirst =>
    obtain ⟨c, more, rfl⟩ := List.exists_cons_of_ne_nil hfirst
    exact ⟨c, _, _, rfl, rfl⟩
  | more _ _ ih =>
    obtain ⟨c, ds, cs, rfl, rfl⟩ := ih
    exact ⟨c, _, _, rfl, rfl⟩

/-- Of each character the text has as many as the number, but for the marks between the groups. -/
theorem count_eq (h : InThrees mark digits text) {c : Char} (hne : c ≠ mark) : text.count c = digits.count c := by
  induction h with
  | two => simp [List.count_cons_of_ne hne.symm]
  | more _ _ ih => simp [List.count_cons_of_ne hne.symm, ih]

theorem count_mark_pos (h : InThrees mark digits text) : 0 < text.count mark := by
  cases h <;> simp

/-- Without its marks the text is the number. -/
theorem filterMap_eq (h : InThrees mark digits text) (hmark : isMark mark = true)
    (hdigits : ∀ c ∈ digits, isDigit c = true) {f : Char → Option Char} (hf : f mark = none) :
    (text.filterMap fun c => if !isMark c then some c else f c) = digits := by
  induction h with
  | two =>
    have hparts := List.forall_mem_append.1 hdigits
    simp only [List.filterMap_append, List.filterMap_cons, hmark, hf, filterMap_digits hparts.1,
      filterMap_digits hparts.2]
    rfl
  | more _ _ ih =>
    have hparts := List.forall_mem_append.1 hdigits
    simp only [List.filterMap_append, List.filterMap_cons, hmark, hf, ih hparts.1, filterMap_digits hparts.2]
    rfl

/-- The marks of a whole number in threes are no decimal marks. -/
theorem decimalMark?_eq (h : InThrees mark digits text) (hmark : isMark mark = true)
    (hdigits : ∀ c ∈ digits, isDigit c = true) : decimalMark? text = none := by
  have halone : ∀ other, isMark other = true → other ≠ mark → text.count other = 0 := fun other hother hne => by
    rw [h.count_eq hne, count_mark_eq_zero hdigits hother]
  cases h with
  | two _ _ hlast => rw [decimalMark?_append hdigits hmark, if_pos hlast]
  | more h hlast =>
    have := h.count_mark_pos
    exact decimalMark?_of_many hmark (by simp; omega) halone

/-- Behind a whole number in threes the other mark is the decimal mark. -/
theorem decimalMark?_append (h : InThrees mark digits text) (hmark : isMark mark = true) (hother : isMark other = true)
    (hne : other ≠ mark) (hfraction : ∀ c ∈ fraction, isDigit c = true) :
    decimalMark? (text ++ other :: fraction) = some other := by
  have hcount := h.count_mark_pos
  rw [decimalMark?_of_both hmark hother hne (by rw [List.count_append]; omega) (by simp)]
  have hdigits : fraction.reverse.find? isMark = none := by
    rw [List.find?_eq_none]
    intro c hc
    simp [isMark_eq_false_of_isDigit (hfraction c (List.mem_reverse.1 hc))]
  simp [List.find?_append, hdigits, hother]

theorem plainNumber_eq (h : InThrees mark digits text) (hmark : isMark mark = true)
    (hdigits : ∀ c ∈ digits, isDigit c = true) : plainNumber text = digits := by
  unfold plainNumber
  simp only [h.decimalMark?_eq hmark hdigits]
  rw [h.filterMap_eq hmark hdigits (by simp)]
  exact if_neg (getLast?_digits_ne hdigits)

theorem plainNumber_append (h : InThrees mark digits text) (hmark : isMark mark = true) (hother : isMark other = true)
    (hne : other ≠ mark) (hdigits : ∀ c ∈ digits, isDigit c = true) (hsome : fraction ≠ [])
    (hfraction : ∀ c ∈ fraction, isDigit c = true) :
    plainNumber (text ++ other :: fraction) = digits ++ '.' :: fraction := by
  have hlast : (digits ++ '.' :: fraction).getLast? = fraction.getLast? := by
    rw [← List.singleton_append, ← List.append_assoc, List.getLast?_append_of_ne_nil _ hsome]
  unfold plainNumber
  simp only [h.decimalMark?_append hmark hother hne hfraction, List.filterMap_append, List.filterMap_cons,
    filterMap_digits hfraction, hother]
  rw [h.filterMap_eq hmark hdigits (by simpa using hne)]
  exact if_neg (hlast ▸ getLast?_digits_ne hfraction)

theorem isDigit_or_isMark (h : InThrees mark digits text) (hmark : isMark mark = true)
    (hdigits : ∀ c ∈ digits, isDigit c = true) : ∀ c ∈ text, isDigit c = true ∨ isMark c = true := by
  intro c hc
  by_cases hcm : c = mark
  · exact .inr (hcm ▸ hmark)
  · rw [← List.count_pos_iff, h.count_eq hcm, List.count_pos_iff] at hc
    exact .inl (hdigits c hc)

end InThrees

/-! ## Numbers -/

theorem plainNumber_of_digits (h : ∀ c ∈ digits, isDigit c = true) : plainNumber digits = digits := by
  have hnone : decimalMark? digits = none := by
    have hcount : ∀ m, isMark m = true → digits.count m = 0 := fun m => count_mark_eq_zero h
    simp [decimalMark?, hcount ',' rfl, hcount '.' rfl]
  unfold plainNumber
  simp only [hnone, filterMap_digits h]
  exact if_neg (getLast?_digits_ne h)

/-- A number starts with a digit, and has digits and marks only. -/
theorem NumberText.chars (h : NumberText whole fraction text) (hne : whole ≠ [])
    (hdigits : ∀ c ∈ whole ++ fraction, isDigit c = true) :
    (∃ c rest, text = c :: rest ∧ isDigit c = true) ∧ ∀ c ∈ text, isDigit c = true ∨ isMark c = true := by
  obtain ⟨hwhole, hfraction⟩ := List.forall_mem_append.1 hdigits
  obtain ⟨c, rest, hcons⟩ := List.exists_cons_of_ne_nil hne
  have hc : isDigit c = true := hwhole c (by simp [hcons])
  cases h with
  | plain => exact ⟨⟨c, rest, hcons, hc⟩, fun d hd => .inl (hwhole d hd)⟩
  | @marked mark hmark =>
    refine ⟨⟨c, rest ++ mark :: fraction, by rw [hcons]; rfl, hc⟩, fun d hd => ?_⟩
    rw [List.mem_append, List.mem_cons] at hd
    rcases hd with hd | rfl | hd
    · exact .inl (hwhole d hd)
    · exact .inr hmark
    · exact .inl (hfraction d hd)
  | grouped hmark _ hgrouped =>
    obtain ⟨d, ds, cs, hdigit, hcs⟩ := hgrouped.exists_cons
    exact ⟨⟨d, cs, hcs, hwhole d (by simp [hdigit])⟩, hgrouped.isDigit_or_isMark hmark hwhole⟩
  | @groupedMarked mark other text hmark hother _ _ hgrouped =>
    obtain ⟨d, ds, cs, hdigit, hcs⟩ := hgrouped.exists_cons
    refine ⟨⟨d, cs ++ other :: fraction, by rw [hcs]; rfl, hwhole d (by simp [hdigit])⟩, fun e he => ?_⟩
    rw [List.mem_append, List.mem_cons] at he
    rcases he with he | rfl | he
    · exact hgrouped.isDigit_or_isMark hmark hwhole e he
    · exact .inr hother
    · exact .inl (hfraction e he)

/-- **A number is read as it is written**, in every one of its writings. -/
theorem NumberText.exists_readDecimal? (h : NumberText whole fraction text) (hne : whole ≠ [])
    (hdigits : ∀ c ∈ whole ++ fraction, isDigit c = true) (hlength : (whole ++ fraction).length ≤ 28) :
    ∃ a, readDecimal? text = some a ∧ a.Spells whole fraction := by
  obtain ⟨hwhole, hfraction⟩ := List.forall_mem_append.1 hdigits
  have hread : readDecimal? text = Decimal.read? (plainNumber text) := by
    obtain ⟨⟨c, rest, hcons, hc⟩, hchars⟩ := h.chars hne hdigits
    exact readDecimal?_eq_read? hcons hc hchars
  rw [hread]
  cases h with
  | plain hnone =>
    subst hnone
    rw [plainNumber_of_digits hwhole]
    exact Decimal.read?_whole hne hwhole (by simpa using hlength)
  | marked hmark hthree =>
    rw [plainNumber_append hdigits hmark, if_neg hthree]
    split
    · next hnone =>
      subst hnone
      exact Decimal.read?_whole hne hwhole (by simpa using hlength)
    · exact Decimal.read?_point hne hdigits hlength
  | grouped hmark hnone hgrouped =>
    subst hnone
    rw [hgrouped.plainNumber_eq hmark hwhole]
    exact Decimal.read?_whole hne hwhole (by simpa using hlength)
  | groupedMarked hmark hother hothers hsome hgrouped =>
    rw [hgrouped.plainNumber_append hmark hother hothers hwhole hsome hfraction]
    exact Decimal.read?_point hne hdigits hlength

end Marks

/-! ## Amounts -/

section Amounts

variable {code number text spaced whole fraction : List Char}

theorem Spaced.filter_eq (h : Spaced text spaced) (hvisible : ∀ c ∈ text, isBlankChar c = false) :
    spaced.filter (!isBlankChar ·) = text := by
  induction h with
  | nil => rfl
  | @char c text spaced h ih =>
    rw [List.forall_mem_cons] at hvisible
    rw [List.filter_cons_of_pos (by simp [hvisible.1]), ih hvisible.2]
  | @blank c text spaced hc h ih => rw [List.filter_cons_of_neg (by simp [hc]), ih hvisible]

/-- Every text is one without white space, strewn with the white space that it has. -/
theorem spaced_filter : ∀ cs : List Char, Spaced (cs.filter (!isBlankChar ·)) cs
  | [] => .nil
  | c :: cs => by
    cases hc : isBlankChar c with
    | true =>
      rw [List.filter_cons_of_neg (by simp [hc])]
      exact .blank hc (spaced_filter cs)
    | false =>
      rw [List.filter_cons_of_pos (by simp [hc])]
      exact .char (spaced_filter cs)

/-- A code behind a number is split off, and written in capitals. -/
theorem splitCurrency_append_code (hlength : code.length = 3) (hletters : ∀ c ∈ code, isLetter c = true) {c : Char}
    {rest : List Char} (hnumber : number = c :: rest) (hc : isDigit c = true) :
    splitCurrency (number ++ code) = (some (asciiUpper (String.ofList code)), number) := by
  have hdigit := isDigit_iff.1 hc
  have hsign : ((number ++ code).head?.bind fun c => currencySigns.find? (·.1 == c)) = none := by
    rw [hnumber]
    exact find?_currencySigns_eq_none (by omega) (by omega)
  have hlong : ¬ (number ++ code).length ≤ 3 := by
    rw [hnumber, List.length_append, List.length_cons]
    omega
  have hfront : currencyCode? ((number ++ code).take 3) = none := by
    simp [currencyCode?, hnumber, isLetter_of_isDigit hc]
  have hback : (number ++ code).length - 3 = number.length := by
    rw [List.length_append]
    omega
  unfold splitCurrency
  rw [hsign]
  simp only [if_neg hlong]
  rw [hfront]
  simp only [hback, List.drop_left, List.take_left, currencyCode?_of_isLetter hlength hletters]

theorem WithCode.splitCurrency_eq (h : WithCode code number text) (hlength : code.length = 3)
    (hletters : ∀ c ∈ code, isLetter c = true) {c : Char} {rest : List Char} (hnumber : number = c :: rest)
    (hc : isDigit c = true) : splitCurrency text = (some (asciiUpper (String.ofList code)), number) := by
  cases h with
  | front => exact splitCurrency_append hlength hletters (by simp [hnumber])
  | behind => exact splitCurrency_append_code hlength hletters hnumber hc

theorem WithCode.not_isBlankChar (h : WithCode code number text) (hletters : ∀ c ∈ code, isLetter c = true)
    (hchars : ∀ c ∈ number, isDigit c = true ∨ isMark c = true) : ∀ c ∈ text, isBlankChar c = false := by
  have hnumber : ∀ c ∈ number, isBlankChar c = false := by
    intro c hc
    rcases hchars c hc with hdigit | hmark
    · exact isBlankChar_of_isDigit hdigit
    · obtain rfl | rfl : c = ',' ∨ c = '.' := by simpa [isMark] using hmark
      all_goals rfl
  have hcode : ∀ c ∈ code, isBlankChar c = false := fun c hc => isBlankChar_of_isLetter (hletters c hc)
  cases h with
  | front => exact List.forall_mem_append.2 ⟨hcode, hnumber⟩
  | behind => exact List.forall_mem_append.2 ⟨hnumber, hcode⟩

/-- **All writings of an amount are read alike.** Digits before and after a decimal mark, at most 28 together, stand for
one number; every text of the number is read as it; and with a code of three letters in front or behind, in either case,
and with white space anywhere, it is read as that number of the currency with the code in capitals. -/
theorem parseAmount?_of_numberText (hne : whole ≠ []) (hdigits : ∀ c ∈ whole ++ fraction, isDigit c = true)
    (hlength : (whole ++ fraction).length ≤ 28) :
    ∃ a : Decimal, a.Spells whole fraction ∧ ∀ number, NumberText whole fraction number →
      parseNumber? (String.ofList number) = some a ∧
        ∀ code text s, code.length = 3 → (∀ c ∈ code, isLetter c = true) → WithCode code number text →
          Spaced text s.toList → parseAmount? s = some ⟨some (asciiUpper (String.ofList code)), a⟩ := by
  obtain ⟨a, -, hspells⟩ := Decimal.exists_make? hdigits hlength
  refine ⟨a, hspells, fun number hnumber => ?_⟩
  have hread : readDecimal? number = some a := by
    obtain ⟨b, hread, hspellsToo⟩ := hnumber.exists_readDecimal? hne hdigits hlength
    rw [hread, hspellsToo.unique hspells]
  obtain ⟨⟨c, rest, hcons, hc⟩, hchars⟩ := hnumber.chars hne hdigits
  refine ⟨by rw [parseNumber?, String.toList_ofList, hread], fun code text s hcode hletters hwith hspaced => ?_⟩
  rw [parseAmount?, hspaced.filter_eq (hwith.not_isBlankChar hletters hchars),
    hwith.splitCurrency_eq hcode hletters hcons hc]
  simp [hread]

/-- Two of the writings of a million and more: with points between the groups and a comma for the fraction, the code
behind and torn apart by a blank, and with a point for the fraction and the code in front. -/
theorem parseAmount?_of_numberText_millions :
    ∃ a : Decimal, a.Spells ['1', '2', '3', '4', '5', '6', '7'] ['5', '0'] ∧
      parseAmount? "1.234.567,50 us d" = some ⟨some "USD", a⟩ ∧
      parseAmount? "Usd 1234567.50" = some ⟨some "USD", a⟩ := by
  have hdigits : ∀ c ∈ ['1', '2', '3', '4', '5', '6', '7'] ++ ['5', '0'], isDigit c = true :=
    List.all_eq_true.1 rfl
  have hthousands : InThrees '.' ['1', '2', '3', '4'] ['1', '.', '2', '3', '4'] :=
    @InThrees.two '.' ['1'] ['2', '3', '4'] (by simp) (by simp) rfl
  have hmillions : InThrees '.' ['1', '2', '3', '4', '5', '6', '7'] ['1', '.', '2', '3', '4', '.', '5', '6', '7'] :=
    @InThrees.more '.' _ _ ['5', '6', '7'] hthousands rfl
  have hgrouped : NumberText ['1', '2', '3', '4', '5', '6', '7'] ['5', '0']
      ['1', '.', '2', '3', '4', '.', '5', '6', '7', ',', '5', '0'] :=
    .groupedMarked rfl rfl (by decide) (by simp) hmillions
  have hmarked : NumberText ['1', '2', '3', '4', '5', '6', '7'] ['5', '0']
      ['1', '2', '3', '4', '5', '6', '7', '.', '5', '0'] :=
    @NumberText.marked _ _ '.' rfl (by decide)
  obtain ⟨a, hspells, hread⟩ := parseAmount?_of_numberText (by simp) hdigits (by decide)
  refine ⟨a, hspells, ?_, ?_⟩
  · exact (hread _ hgrouped).2 ['u', 's', 'd'] _ _ rfl (List.all_eq_true.1 rfl) .behind
      (spaced_filter "1.234.567,50 us d".toList)
  · exact (hread _ hmarked).2 ['U', 's', 'd'] _ _ rfl (List.all_eq_true.1 rfl) .front
      (spaced_filter "Usd 1234567.50".toList)

end Amounts

end DocumentaryCredit

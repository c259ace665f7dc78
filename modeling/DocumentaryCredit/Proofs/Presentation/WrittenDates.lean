/-
The dates that are read of the writings of trade documents. A date that is written in one of the layouts with a year of
four digits is read as that date and nothing else (`parseDate?_of_writes`). Every date that is read has its year at the
start or at the end of the line, with as many digits as stand there: the layouts take fewer than four as they are, so
that a year of two digits is one of the first century (`statesYear_of_parseDate?`).
-/
import DocumentaryCredit.Presentation.Value
import DocumentaryCredit.Proofs.Calendar.Writings
import DocumentaryCredit.Proofs.Decimal

namespace DocumentaryCredit

open Text

/-! ## The line of a date -/

/-- What of a text is read as a date: the first line without the blanks around it. -/
def firstLine (s : String) : List Char := trimChars isBlankChar (s.toList.takeWhile (· != '\n'))

/-- The digits that a date is read of when they are six or eight. -/
def leadingRun (s : String) : List Char := (firstLine s).takeWhile isDigit

theorem parseDate?_eq_findSome? {s : String} (hsix : (leadingRun s).length ≠ 6) (height : (leadingRun s).length ≠ 8) :
    parseDate? s = Layout.onDocuments.findSome? fun layout => layout.read? (String.ofList (firstLine s)) := by
  unfold leadingRun firstLine at hsix height
  simp [parseDate?, firstLine, hsix, height]

theorem firstLine_append {before cs after : List Char} (hbefore : ∀ c ∈ before, isBlankChar c = true ∧ c ≠ '\n')
    (hafter : ∀ c ∈ after.takeWhile (· != '\n'), isBlankChar c = true) (hline : '\n' ∉ cs) (hne : cs ≠ [])
    (hfirst : ∀ c ∈ cs.head?, isBlankChar c = false) (hlast : ∀ c ∈ cs.getLast?, isBlankChar c = false) :
    firstLine (String.ofList (before ++ cs ++ after)) = cs := by
  have htake : (before ++ cs ++ after).takeWhile (· != '\n') = before ++ cs ++ after.takeWhile (· != '\n') := by
    refine List.takeWhile_append_of_pos fun c hc => bne_iff_ne.2 ?_
    rcases List.mem_append.1 hc with hc | hc
    · exact (hbefore c hc).2
    · rintro rfl
      exact hline hc
  have hfront : (before ++ cs ++ after.takeWhile (· != '\n')).dropWhile isBlankChar =
      cs ++ after.takeWhile (· != '\n') := by
    rw [List.append_assoc, List.dropWhile_append_of_pos fun c hc => (hbefore c hc).1]
    exact dropWhile_eq_self (by rwa [List.head?_append_of_ne_nil _ hne])
  rw [firstLine, String.toList_ofList, htake, trimChars, hfront, List.reverse_append,
    List.dropWhile_append_of_pos fun c hc => hafter c (List.mem_reverse.1 hc), dropWhile_eq_self (by simpa using hlast),
    List.reverse_reverse]

/-! ## Writings of dates -/

section Writings

variable {layout : Layout} {years : Nat} {date : Date} {cs : List Char}

open Layout

theorem firstLine_of_writes {before after : List Char} (hlayout : layout ∈ onDocuments)
    (h : layout.Writes years date cs) (hbefore : ∀ c ∈ before, isBlankChar c = true ∧ c ≠ '\n')
    (hafter : ∀ c ∈ after.takeWhile (· != '\n'), isBlankChar c = true) :
    firstLine (String.ofList (before ++ cs ++ after)) = cs := by
  obtain ⟨hmarks, hfirst, hlast⟩ := edges_of_mem_onDocuments layout hlayout
  obtain ⟨first, hhead, hfirst⟩ := (Option.any_eq_true _ _).1 hfirst
  obtain ⟨last, hgetLast, hlast⟩ := (Option.any_eq_true _ _).1 hlast
  obtain ⟨c, hc, hopens⟩ := h.opens_head first hhead
  refine firstLine_append hbefore hafter (h.not_mem_lineBreak hmarks) (by rintro rfl; cases hc) (fun d hd => ?_)
    fun d hd => opens_eq_false hlast (h.opens_getLast last hgetLast d hd)
  obtain rfl : c = d := Option.mem_unique hc hd
  exact opens_eq_false hfirst hopens

/-- No writing starts with six or eight digits. -/
theorem length_leadingRun_of_writes {s : String} (hlayout : layout ∈ onDocuments) (hyears : years ≤ 4)
    (h : layout.Writes years date (firstLine s)) : (leadingRun s).length ≤ 4 :=
  (h.length_le_of_infix (separated_of_mem_onDocuments _ hlayout) (numbered_of_mem_onDocuments _ hlayout)
    (fun _ hc => List.mem_takeWhile_imp hc) (List.takeWhile_prefix _).isInfix).trans (by omega)

/-- A writing is read as a date, and as the one that is written unless an earlier layout takes its day for a short
year. -/
theorem exists_parseDate?_of_writes {s : String} (hlayout : layout ∈ onDocuments) (hyears : years ≤ 4)
    (h : layout.Writes years date (firstLine s)) :
    ∃ found, parseDate? s = some found ∧ (3 ≤ years ∨ layout ≠ dayMonthYear → found = date) := by
  have hrun := length_leadingRun_of_writes hlayout hyears h
  have hread := read?_of_writes hlayout hyears h
  rw [parseDate?_eq_findSome? (by omega) (by omega)]
  cases hfound : onDocuments.findSome? fun layout => layout.read? (String.ofList (firstLine s)) with
  | none =>
    rw [List.findSome?_eq_none_iff] at hfound
    rw [hfound layout hlayout] at hread
    cases hread
  | some found =>
    refine ⟨found, rfl, fun hwell => ?_⟩
    obtain ⟨earlier, reader, later, hsplit, hreader, hnone⟩ := List.findSome?_eq_some_iff.1 hfound
    have hreaderMem : reader ∈ onDocuments := by simp [hsplit]
    rw [hsplit, List.mem_append, List.mem_cons] at hlayout
    rcases hlayout with hearlier | rfl | hlater
    · rw [hnone layout hearlier] at hread
      cases hread
    · exact Option.some.inj (hreader.symm.trans hread)
    · have hsettles := pairwise_settles_onDocuments years hyears
      rw [hsplit, List.pairwise_append, List.pairwise_cons] at hsettles
      exact eq_of_read? hreaderMem (by simp [hsplit, hlater]) (hsettles.2.1.1 layout hlater hwell) h hreader

/-- **A written date is the date that is read.** -/
theorem parseDate?_of_writes (before after : List Char) (hlayout : layout ∈ onDocuments) (h : layout.Writes 4 date cs)
    (hbefore : ∀ c ∈ before, isBlankChar c = true ∧ c ≠ '\n')
    (hafter : ∀ c ∈ after.takeWhile (· != '\n'), isBlankChar c = true) :
    parseDate? (String.ofList (before ++ cs ++ after)) = some date ∧
      (leadingRun (String.ofList (before ++ cs ++ after))).length ≤ 4 ∧
      ∀ other ∈ onDocuments, ∀ found, other.read? (String.ofList cs) = some found → found = date := by
  have hline := firstLine_of_writes hlayout h hbefore hafter
  have hwrites : layout.Writes 4 date (firstLine (String.ofList (before ++ cs ++ after))) := by rwa [hline]
  refine ⟨?_, length_leadingRun_of_writes hlayout le_rfl hwrites, fun other hother found hread => ?_⟩
  · obtain ⟨found, hfound, heq⟩ := exists_parseDate?_of_writes hlayout le_rfl hwrites
    rw [hfound, heq (.inl (by decide))]
  · exact eq_of_read? hother hlayout (settles_onDocuments other hother layout hlayout) h hread

/-- The third of September 2024. -/
def thirdOfSeptember : Date := ⟨2024, 9, 3, by decide⟩

/-- The name of a month in mixed case, a day of one digit, blanks around both and another line behind. -/
theorem parseDate?_of_writes_thirdOfSeptember :
    parseDate? "  3 sEPTEMBER 2024 \nLONDON" = some thirdOfSeptember ∧
      [Item.day, .blank, .monthName, .blank, .year] ∈ onDocuments ∧
      Writes 4 thirdOfSeptember [.day, .blank, .monthName, .blank, .year] "3 sEPTEMBER 2024".toList := by
  have hwrites : Writes 4 thirdOfSeptember [.day, .blank, .monthName, .blank, .year] (['3'] ++ ([' '] ++
      ("sEPTEMBER".toList ++ ([' '] ++ (['2', '0', '2', '4'] ++ []))))) :=
    .cons ⟨by decide, by decide⟩ (.cons ⟨by decide, by simp [isBlankChar]⟩ (.cons ⟨_, rfl, by decide⟩
      (.cons ⟨by decide, by simp [isBlankChar]⟩ (.cons ⟨by decide, rfl⟩ .nil))))
  have hread := (parseDate?_of_writes [' ', ' '] " \nLONDON".toList (by decide) hwrites
    (by simp [isBlankChar]) (by simp [isBlankChar])).1
  exact ⟨hread, by decide, hwrites⟩

end Writings

/-! ## The year of a date -/

namespace Layout

/-- The digits of a year, four at most, or any number of them behind a sign. -/
structure IsYear (sign digits : List Char) (year : Int) : Prop where
  numeral : IsNumeral digits year.natAbs
  sign : (sign = [] ∧ 0 ≤ year ∧ digits.length ≤ 4) ∨ (sign = ['+'] ∧ 0 ≤ year) ∨ (sign = ['-'] ∧ year ≤ 0)

/-- A line has the year at its start, with a hyphen behind it, or at its end. -/
def StatesYear (line : List Char) (year : Int) : Prop :=
  ∃ sign digits, IsYear sign digits year ∧ (sign ++ digits ++ ['-'] <+: line ∨ sign ++ digits <:+ line)

/-- A line has the year in four digits or more. -/
def StatesLongYear (line : List Char) (year : Int) : Prop :=
  ∃ digits, digits <:+: line ∧ IsNumeral digits year.natAbs ∧ 4 ≤ digits.length

variable {layout front back : Layout} {parts read found : Parts} {cs rest : List Char} {item : Item} {date : Date}
  {years : Nat}

theorem exists_of_readNumber? {most n : Nat} (h : readNumber? most cs = some (n, rest)) :
    ∃ digits, cs = digits ++ rest ∧ IsNumeral digits n ∧ digits.length ≤ most := by
  simp only [readNumber?] at h
  split at h
  · cases h
  · next hne =>
    obtain ⟨rfl, rfl⟩ := Prod.mk.inj (Option.some.inj h)
    have hprefix : (cs.take most).takeWhile isDigit <+: cs := (List.takeWhile_prefix _).trans (List.take_prefix most cs)
    refine ⟨(cs.take most).takeWhile isDigit, ?_, ⟨by simpa using hne, fun c hc => List.mem_takeWhile_imp hc, rfl⟩, ?_⟩
    · exact (List.prefix_append_drop hprefix)
    · exact (List.takeWhile_prefix _).length_le.trans (List.length_take_le most cs)

theorem exists_of_read?_year (h : Item.read? parts cs .year = some (read, rest)) :
    ∃ blanks sign digits year, cs = blanks ++ sign ++ digits ++ rest ∧ (∀ c ∈ blanks, isBlankChar c = true) ∧
      IsYear sign digits year ∧ read = { parts with year := some year } := by
  have hnumber : ∀ (sign : List Char) {behind most n}, cs.dropWhile isBlankChar = sign ++ behind →
      readNumber? most behind = some (n, rest) →
        ∃ digits, cs = cs.takeWhile isBlankChar ++ sign ++ digits ++ rest ∧ IsNumeral digits n ∧
          digits.length ≤ most := by
    intro sign behind most n hsign hread
    obtain ⟨digits, rfl, hnumeral⟩ := exists_of_readNumber? hread
    refine ⟨digits, ?_, hnumeral⟩
    rw [List.append_assoc, List.append_assoc, ← hsign, List.takeWhile_append_dropWhile]
  have hblanks : ∀ c ∈ cs.takeWhile isBlankChar, isBlankChar c = true := fun c hc => List.mem_takeWhile_imp hc
  simp only [Item.read?] at h
  split at h
  · next signed heq =>
    obtain ⟨⟨n, _⟩, hread, heq'⟩ := Option.map_eq_some_iff.1 h
    cases heq'
    obtain ⟨digits, hdigits, hnumeral, -⟩ := hnumber ['-'] heq hread
    exact ⟨_, _, digits, -n, hdigits, hblanks, ⟨by simpa using hnumeral, .inr (.inr ⟨rfl, by omega⟩)⟩, rfl⟩
  · next signed heq =>
    obtain ⟨⟨n, _⟩, hread, heq'⟩ := Option.map_eq_some_iff.1 h
    cases heq'
    obtain ⟨digits, hdigits, hnumeral, -⟩ := hnumber ['+'] heq hread
    exact ⟨_, _, digits, n, hdigits, hblanks, ⟨by simpa using hnumeral, .inr (.inl ⟨rfl, by omega⟩)⟩, rfl⟩
  · obtain ⟨⟨n, _⟩, hread, heq'⟩ := Option.map_eq_some_iff.1 h
    cases heq'
    obtain ⟨digits, hdigits, hnumeral, hlength⟩ := hnumber [] rfl hread
    exact ⟨_, _, digits, n, hdigits, hblanks, ⟨by simpa using hnumeral, .inl ⟨rfl, by omega, hlength⟩⟩, rfl⟩

theorem dropWord?_suffix {word : String} (h : dropWord? word cs = some rest) : rest <:+ cs := by
  unfold dropWord? at h
  split at h
  · rw [← Option.some.inj h]
    exact List.drop_suffix _ _
  · cases h

theorem readShortMonth?_suffix {n : Nat} {name : String} (h : readShortMonth? cs = some (n, name, rest)) :
    rest <:+ cs := by
  obtain ⟨month, -, hmonth⟩ := List.exists_of_findSome?_eq_some h
  obtain ⟨rest, hdrop, heq⟩ := Option.map_eq_some_iff.1 hmonth
  cases heq
  exact dropWord?_suffix hdrop

/-- An item leaves an end of the text. -/
theorem Item.read?_suffix (h : item.read? parts cs = some (read, rest)) : rest <:+ cs := by
  have hnumber : ∀ {most n rest}, readNumber? most (cs.dropWhile isBlankChar) = some (n, rest) → rest <:+ cs := by
    intro most n rest hread
    obtain ⟨digits, hdigits, -⟩ := exists_of_readNumber? hread
    exact .trans ⟨digits, hdigits.symm⟩ (List.dropWhile_suffix _)
  cases item with
  | year =>
    obtain ⟨blanks, sign, digits, year, hcs, -⟩ := exists_of_read?_year h
    exact ⟨blanks ++ sign ++ digits, hcs.symm⟩
  | month | day =>
    obtain ⟨number, hread, heq⟩ := Option.map_eq_some_iff.1 h
    cases heq
    exact hnumber hread
  | shortMonthName =>
    obtain ⟨name, hread, heq⟩ := Option.map_eq_some_iff.1 h
    cases heq
    exact readShortMonth?_suffix hread
  | monthName =>
    obtain ⟨⟨n, name, behind⟩, hread, heq⟩ := Option.map_eq_some_iff.1 h
    cases heq
    refine .trans ?_ (readShortMonth?_suffix hread)
    cases hdrop : dropWord? name behind with
    | none => exact List.suffix_rfl
    | some rest => exact dropWord?_suffix hdrop
  | blank =>
    cases h
    exact List.dropWhile_suffix _
  | mark m =>
    cases cs with
    | nil => cases h
    | cons c cs =>
      simp only [read?] at h
      split at h <;> cases h
      exact List.suffix_cons _ _

/-- No other item changes the year. -/
theorem Item.year_of_read? (hitem : item ≠ .year) (h : item.read? parts cs = some (read, rest)) :
    read.year = parts.year := by
  cases item with
  | year => exact absurd rfl hitem
  | month | day | shortMonthName | monthName =>
    obtain ⟨found, -, heq⟩ := Option.map_eq_some_iff.1 h
    cases heq
    rfl
  | blank =>
    cases h
    rfl
  | mark m =>
    simp only [read?] at h
    split at h
    · split at h <;> cases h
      rfl
    · cases h

theorem exists_of_readItems?_cons {items : Layout} (h : readItems? parts cs (item :: items) = some found) :
    ∃ read rest, item.read? parts cs = some (read, rest) ∧ readItems? read rest items = some found := by
  obtain ⟨⟨read, rest⟩, hread, hitems⟩ := Option.bind_eq_some_iff.1 h
  exact ⟨read, rest, hread, hitems⟩

theorem eq_nil_of_readItems? (h : readItems? parts cs [] = some found) : cs = [] ∧ found = parts := by
  simp only [readItems?] at h
  split at h
  · next hcs => exact ⟨by simpa using hcs, (Option.some.inj h).symm⟩
  · cases h

theorem year_of_readItems? (hyear : .year ∉ layout) (h : readItems? parts cs layout = some found) :
    found.year = parts.year := by
  induction layout generalizing parts cs with
  | nil => rw [(eq_nil_of_readItems? h).2]
  | cons item items ih =>
    obtain ⟨hitem, hitems⟩ := not_or.1 (mt List.mem_cons.2 hyear)
    obtain ⟨read, rest, hread, h⟩ := exists_of_readItems?_cons h
    rw [ih hitems h, Item.year_of_read? (Ne.symm hitem) hread]

/-- A layout that starts with the year has it from the start of the text. -/
theorem exists_year_of_first (hback : .year ∉ back) (hfirst : ∀ c ∈ cs.head?, isBlankChar c = false)
    (h : readItems? parts cs (.year :: .mark '-' :: back) = some found) :
    ∃ sign digits year, sign ++ digits ++ ['-'] <+: cs ∧ IsYear sign digits year ∧ found.year = some year := by
  obtain ⟨_, rest, hread, hmore⟩ := exists_of_readItems?_cons h
  obtain ⟨blanks, sign, digits, year, rfl, hblanks, hyear, rfl⟩ := exists_of_read?_year hread
  obtain rfl : blanks = [] := by
    rw [← List.head?_eq_none_iff, Option.eq_none_iff_forall_not_mem]
    intro c hc
    have hblank := hfirst c (by simp [Option.mem_def.1 hc])
    rw [hblanks c (List.mem_of_mem_head? hc)] at hblank
    cases hblank
  refine ⟨sign, digits, year, ?_, hyear, year_of_readItems? (by simp [hback]) hmore⟩
  obtain ⟨_, behind, hmark, -⟩ := exists_of_readItems?_cons hmore
  cases rest with
  | nil => cases hmark
  | cons c rest =>
    simp only [Item.read?] at hmark
    split at hmark
    · next hc => exact ⟨rest, by simp [hc]⟩
    · cases hmark

/-- A layout that ends with the year has it up to the end of the text. -/
theorem exists_year_of_last (h : readItems? parts cs (front ++ [.year]) = some found) :
    ∃ sign digits year, sign ++ digits <:+ cs ∧ IsYear sign digits year ∧ found.year = some year := by
  induction front generalizing parts cs with
  | nil =>
    obtain ⟨_, rest, hread, h⟩ := exists_of_readItems?_cons h
    obtain ⟨blanks, sign, digits, year, rfl, -, hyear, rfl⟩ := exists_of_read?_year hread
    obtain ⟨rfl, rfl⟩ := eq_nil_of_readItems? h
    exact ⟨sign, digits, year, ⟨blanks, by simp⟩, hyear, rfl⟩
  | cons item items ih =>
    obtain ⟨read, rest, hread, h⟩ := exists_of_readItems?_cons h
    obtain ⟨sign, digits, year, hsuffix, hyear⟩ := ih h
    exact ⟨sign, digits, year, hsuffix.trans (Item.read?_suffix hread), hyear⟩

/-- The layouts have the year in front of a hyphen at their start, or at their end. -/
theorem year_of_mem_onDocuments : ∀ layout ∈ onDocuments,
    (∃ back, layout = .year :: .mark '-' :: back ∧ .year ∉ back) ∨ ∃ front, layout = front ++ [.year] := by
  have hcases : ∀ layout ∈ onDocuments, (layout.take 2 = [.year, .mark '-'] ∧ .year ∉ layout.drop 2) ∨
      layout.getLast? = some .year := by decide +kernel
  refine fun layout hlayout => (hcases layout hlayout).imp (fun h => ⟨layout.drop 2, ?_, h.2⟩) fun h => ?_
  · conv_lhs => rw [← List.take_append_drop 2 layout, h.1]
    rfl
  · exact ⟨layout.dropLast, (List.dropLast_append_getLast? _ h).symm⟩

theorem statesYear_of_read? (hlayout : layout ∈ onDocuments) {line : List Char}
    (hline : ∀ c ∈ line.head?, isBlankChar c = false) (h : layout.read? (String.ofList line) = some date) :
    StatesYear line date.year := by
  rw [read?, String.toList_ofList] at h
  obtain ⟨found, hfound, hdate⟩ := Option.bind_eq_some_iff.1 h
  obtain ⟨sign, digits, year, hplace, hyear, heq⟩ : ∃ sign digits year,
      (sign ++ digits ++ ['-'] <+: line ∨ sign ++ digits <:+ line) ∧ IsYear sign digits year ∧
        found.year = some year := by
    rcases year_of_mem_onDocuments layout hlayout with ⟨back, rfl, hback⟩ | ⟨front, rfl⟩
    · obtain ⟨sign, digits, year, hprefix, hyear⟩ := exists_year_of_first hback hline hfound
      exact ⟨sign, digits, year, .inl hprefix, hyear⟩
    · obtain ⟨sign, digits, year, hsuffix, hyear⟩ := exists_year_of_last hfound
      exact ⟨sign, digits, year, .inr hsuffix, hyear⟩
  have hdateYear : date.year = year := by
    rw [heq] at hdate
    split at hdate
    · next hyear' _ _ => exact (Date.of_make? hdate).1.trans (Option.some.inj hyear').symm
    · cases hdate
  exact ⟨sign, digits, hdateYear ▸ hyear, hplace⟩

theorem isInfix_of_place {sign digits line : List Char}
    (h : sign ++ digits ++ ['-'] <+: line ∨ sign ++ digits <:+ line) : digits <:+: line := by
  rcases h with hprefix | hsuffix
  · exact .trans ⟨sign, ['-'], rfl⟩ hprefix.isInfix
  · exact (List.suffix_append sign digits).isInfix.trans hsuffix.isInfix

/-- A year of a thousand or more takes four digits. -/
theorem StatesYear.statesLongYear {line : List Char} {year : Int} (h : StatesYear line year)
    (hyear : 1000 ≤ year.natAbs) : StatesLongYear line year := by
  obtain ⟨sign, digits, hdigits, hplace⟩ := h
  refine ⟨digits, isInfix_of_place hplace, hdigits.numeral, ?_⟩
  have hvalue : digitsValue digits = year.natAbs := by exact_mod_cast hdigits.numeral.value
  by_contra hshort
  have hlimit : 10 ^ digits.length ≤ 10 ^ 3 := Nat.pow_le_pow_right (by decide) (by omega)
  have := digitsValue_lt hdigits.numeral.isDigit
  omega

theorem Writes.exists_year (hyear : .year ∈ layout) (h : layout.Writes years date cs) :
    ∃ digits, digits <:+: cs ∧ IsNumeral digits date.year ∧ digits.length = years := by
  induction h with
  | nil => cases hyear
  | @cons item items text rest hitem hrest ih =>
    rcases List.mem_cons.1 hyear with rfl | hyear
    · exact ⟨text, List.infix_append [] text rest, hitem.1, hitem.2⟩
    · obtain ⟨digits, hwithin, hdigits⟩ := ih hyear
      exact ⟨digits, hwithin.trans (List.suffix_append text rest).isInfix, hdigits⟩

/-- A writing has a year in four digits only if it is written so. -/
theorem Writes.eq_four {year : Int} (hlayout : layout ∈ onDocuments) (hyears : years ≤ 4)
    (h : layout.Writes years date cs) (hlong : StatesLongYear cs year) : years = 4 := by
  obtain ⟨digits, hwithin, hdigits, hlength⟩ := hlong
  have := h.length_le_of_infix (separated_of_mem_onDocuments _ hlayout) (numbered_of_mem_onDocuments _ hlayout)
    hdigits.isDigit hwithin
  omega

theorem Writes.statesLongYear (hlayout : layout ∈ onDocuments) (h : layout.Writes 4 date cs) :
    StatesLongYear cs date.year := by
  have hyear : ∀ layout ∈ onDocuments, .year ∈ layout := by decide +kernel
  obtain ⟨digits, hwithin, hdigits, hlength⟩ := h.exists_year (hyear layout hlayout)
  refine ⟨digits, hwithin, ⟨hdigits.ne_nil, hdigits.isDigit, ?_⟩, hlength.ge⟩
  have := hdigits.value
  omega

/-- What stands for a year in a writing is no greater than its digits allow, whichever number of it is meant. -/
theorem Writes.natAbs_lt (hlayout : layout ∈ onDocuments) (h : layout.Writes years date cs) {year : Int}
    (hyear : StatesYear cs year) : year.natAbs < 10 ^ max 2 years := by
  obtain ⟨sign, digits, hdigits, hplace⟩ := hyear
  have hwithin := isInfix_of_place hplace
  have hlength := h.length_le_of_infix (separated_of_mem_onDocuments _ hlayout) (numbered_of_mem_onDocuments _ hlayout)
    hdigits.numeral.isDigit hwithin
  calc year.natAbs
    _ = digitsValue digits := by exact_mod_cast hdigits.numeral.value.symm
    _ < 10 ^ digits.length := digitsValue_lt hdigits.numeral.isDigit
    _ ≤ 10 ^ max 2 years := Nat.pow_le_pow_right (by decide) hlength

end Layout

/-- **A year is read as it stands.** The line of a date that is not read of six or eight digits has the year of this
date at its start or at its end, and a year of a thousand or more in at least four digits. A line that is written with
fewer digits is read all the same, as a date whose year it has in no four digits: with two of them as one of the first
century. -/
theorem statesYear_of_parseDate? {s : String} (hsix : (leadingRun s).length ≠ 6) (height : (leadingRun s).length ≠ 8) :
    (∀ date, parseDate? s = some date → Layout.StatesYear (firstLine s) date.year ∧
      (1000 ≤ date.year.natAbs → Layout.StatesLongYear (firstLine s) date.year)) ∧
    ∀ layout ∈ Layout.onDocuments, ∀ years ≤ 4, ∀ date, layout.Writes years date (firstLine s) →
      ∃ found, parseDate? s = some found ∧ found.year.natAbs < 10 ^ max 2 years ∧
        (3 ≤ years ∨ layout ≠ Layout.dayMonthYear → found = date) ∧
        (Layout.StatesLongYear (firstLine s) found.year ↔ years = 4) := by
  have hstates : ∀ date, parseDate? s = some date → Layout.StatesYear (firstLine s) date.year := by
    intro date h
    rw [parseDate?_eq_findSome? hsix height] at h
    obtain ⟨layout, hlayout, hread⟩ := List.exists_of_findSome?_eq_some h
    exact Layout.statesYear_of_read? hlayout trimChars_head? hread
  refine ⟨fun date h => ⟨hstates date h, (hstates date h).statesLongYear⟩, fun layout hlayout years hyears date h => ?_⟩
  obtain ⟨found, hfound, heq⟩ := exists_parseDate?_of_writes hlayout hyears h
  refine ⟨found, hfound, h.natAbs_lt hlayout (hstates found hfound), heq, h.eq_four hlayout hyears, ?_⟩
  rintro rfl
  rw [heq (.inl (by decide))]
  exact h.statesLongYear hlayout

/-- The thirtieth of September of the year 24. -/
def earlyAutumn : Date := ⟨24, 9, 30, by decide⟩

theorem writes_earlyAutumn : Layout.Writes 2 earlyAutumn [.day, .mark '/', .month, .mark '/', .year]
    (firstLine "30/09/24") := by
  have hline : firstLine "30/09/24" = ['3', '0'] ++ (['/'] ++ (['0', '9'] ++ (['/'] ++ (['2', '4'] ++ [])))) := by
    decide +kernel
  rw [hline]
  exact .cons ⟨by decide, by decide⟩ (.cons rfl (.cons ⟨by decide, by decide⟩
    (.cons rfl (.cons ⟨by decide, rfl⟩ .nil))))

theorem statesYear_of_parseDate?_earlyAutumn : (leadingRun "30/09/24").length = 2 ∧
    ∃ found, parseDate? "30/09/24" = some found ∧ found = earlyAutumn ∧
      Layout.StatesYear (firstLine "30/09/24") found.year := by
  have hrun : (leadingRun "30/09/24").length = 2 := by decide +kernel
  obtain ⟨hstates, hwrites⟩ := statesYear_of_parseDate? (s := "30/09/24") (by omega) (by omega)
  obtain ⟨found, hfound, -, heq, -⟩ := hwrites _ (by decide) 2 (by decide) _ writes_earlyAutumn
  exact ⟨hrun, found, hfound, heq (.inr (by decide)), (hstates found hfound).1⟩

/-- A year of two digits is read as one of the first century, though the line has no four digits. -/
theorem parseDate?_year_in_two_digits :
    (leadingRun "30/09/24").length ≠ 6 ∧ (leadingRun "30/09/24").length ≠ 8 ∧
      ∃ date, parseDate? "30/09/24" = some date ∧ date.year = 24 ∧
        ¬ Layout.StatesLongYear (firstLine "30/09/24") date.year := by
  refine ⟨by decide +kernel, by decide +kernel, earlyAutumn, by decide +kernel, rfl, fun hlong => ?_⟩
  exact absurd (writes_earlyAutumn.eq_four (by decide) (by decide) hlong) (by decide)

end DocumentaryCredit

/-
How a date is written in a layout, and what the layouts make of what is written. An item of a layout is read where a
text of it begins, and it leaves what stands behind that text, as long as the two cannot run together (`apart`). So a
layout reads its own writings.

Another layout may go along with a writing for a while. A check follows both of them item by item, the one that reads
and the one that was written: `settles` finds that the writing is not read as another date. Main statements: what
settles is settled (`eq_fill_of_settles`), every two layouts of trade documents settle when years have four digits
(`settles_onDocuments`), and no run of digits in a writing is longer than its year (`Writes.length_le_of_infix`).
-/
import DocumentaryCredit.Proofs.Calendar

namespace DocumentaryCredit.Layout

open Text

/-! ## Writings -/

/-- Digits that spell a number. -/
structure IsNumeral (digits : List Char) (n : Int) : Prop where
  ne_nil : digits ≠ []
  isDigit : ∀ c ∈ digits, isDigit c = true
  value : (digitsValue digits : Int) = n

instance (digits : List Char) (n : Int) : Decidable (IsNumeral digits n) :=
  decidable_of_iff (digits ≠ [] ∧ digits.all isDigit = true ∧ (digitsValue digits : Int) = n)
    ⟨fun h => ⟨h.1, List.all_eq_true.1 h.2.1, h.2.2⟩, fun h => ⟨h.ne_nil, List.all_eq_true.2 h.isDigit, h.value⟩⟩

/-- The texts of an item in the writings of a date: the year in `years` digits, the month and the day with or without a
zero in front, and names in either case. -/
def Item.Writes (years : Nat) (date : Date) : Item → List Char → Prop
  | .year, cs => IsNumeral cs date.year ∧ cs.length = years
  | .month, cs => IsNumeral cs date.month ∧ cs.length ≤ 2
  | .day, cs => IsNumeral cs date.day ∧ cs.length ≤ 2
  | .shortMonthName, cs => ∃ name ∈ monthNames[date.month - 1]?, cs.map Char.toLower = name.1.toList
  | .monthName, cs => ∃ name ∈ monthNames[date.month - 1]?, cs.map Char.toLower = name.1.toList ++ name.2.toList
  | .blank, cs => cs ≠ [] ∧ ∀ c ∈ cs, isBlankChar c = true ∧ c ≠ '\n'
  | .mark c, cs => cs = [c]

/-- The writings of a date in a layout. -/
inductive Writes (years : Nat) (date : Date) : Layout → List Char → Prop where
  | nil : Writes years date [] []
  | cons {item : Item} {items : Layout} {text rest : List Char} (hitem : item.Writes years date text)
      (hrest : Writes years date items rest) : Writes years date (item :: items) (text ++ rest)

theorem isNumeral_toDigits (n : Nat) : IsNumeral (Nat.toDigits 10 n) n where
  ne_nil := Nat.toDigits_ne_nil
  isDigit _ := isDigit_of_mem_toDigits
  value := by rw [digitsValue_toDigits]

/-- A date has its name of the month. -/
theorem exists_monthName (date : Date) : ∃ name ∈ monthNames[date.month - 1]?,
    (name.1.toList ++ name.2.toList).map Char.toLower = name.1.toList ++ name.2.toList := by
  have hlower : ∀ name ∈ monthNames, (name.1.toList ++ name.2.toList).map Char.toLower =
      name.1.toList ++ name.2.toList := by decide
  have hindex : date.month - 1 < monthNames.length := by
    have := date.isDay.2.1
    simp only [monthNames, List.length_cons, List.length_nil]
    omega
  exact ⟨monthNames[date.month - 1], List.getElem?_eq_getElem hindex, hlower _ (List.getElem_mem hindex)⟩

/-- Every date of the years 1000 to 9999 has writings in every layout. -/
theorem exists_writes {date : Date} (hyear : 1000 ≤ date.year ∧ date.year ≤ 9999) (layout : Layout) :
    ∃ cs, Writes 4 date layout cs := by
  have hshort : ∀ {n : Nat}, n < 100 → (Nat.toDigits 10 n).length ≤ 2 := fun hn =>
    (Nat.length_toDigits_le_iff (by decide) (by decide)).2 hn
  obtain ⟨name, hname, hlower⟩ := exists_monthName date
  have hitem : ∀ item : Item, ∃ text, item.Writes 4 date text := by
    intro item
    cases item with
    | year =>
      obtain ⟨year, hyear'⟩ := Int.eq_ofNat_of_zero_le (a := date.year) (by omega)
      have hmost : (Nat.toDigits 10 year).length ≤ 4 :=
        (Nat.length_toDigits_le_iff (by decide) (by decide)).2 (by omega)
      have hleast : ¬ (Nat.toDigits 10 year).length ≤ 3 :=
        (Nat.length_toDigits_le_iff (by decide) (by decide)).not.2 (by omega)
      exact ⟨Nat.toDigits 10 year, hyear' ▸ isNumeral_toDigits year, by omega⟩
    | month => exact ⟨_, isNumeral_toDigits _, hshort (date.isDay.2.1.2.trans_lt (by decide))⟩
    | day =>
      exact ⟨_, isNumeral_toDigits _, hshort ((date.isDay.2.2.2.trans (daysInMonth_le _ _)).trans_lt (by decide))⟩
    | shortMonthName => exact ⟨name.1.toList, name, hname, List.append_inj_left (by simpa using hlower) (by simp)⟩
    | monthName => exact ⟨name.1.toList ++ name.2.toList, name, hname, hlower⟩
    | blank => exact ⟨[' '], List.cons_ne_nil _ _, by simp [isBlankChar]⟩
    | mark c => exact ⟨[c], rfl⟩
  induction layout with
  | nil => exact ⟨[], .nil⟩
  | cons item items ih =>
    obtain ⟨text, htext⟩ := hitem item
    obtain ⟨rest, hrest⟩ := ih
    exact ⟨text ++ rest, .cons htext hrest⟩

/-- The parts of a date that an item adds. -/
def Item.fill (date : Date) (parts : Parts) : Item → Parts
  | .year => { parts with year := some date.year }
  | .month | .shortMonthName | .monthName => { parts with month := some date.month }
  | .day => { parts with day := some date.day }
  | .blank | .mark _ => parts

/-- The parts of a date that a layout adds. -/
def fill (date : Date) (parts : Parts) (layout : Layout) : Parts := layout.foldl (Item.fill date) parts

/-! ## Where items begin -/

/-- The characters that a text of an item begins with. -/
def Item.opens : Item → Char → Bool
  | .year, c | .month, c | .day, c => isDigit c
  | .shortMonthName, c | .monthName, c => isLetter c
  | .blank, c => isBlankChar c
  | .mark m, c => c == m

/-- The other characters at which an item can begin to read. -/
def Item.skips : Item → Char → Bool
  | .year, c | .month, c | .day, c => isBlankChar c || c == '-' || c == '+'
  | .blank, _ => true
  | .shortMonthName, _ | .monthName, _ | .mark _, _ => false

/-- One of the characters that a text of an item begins with. -/
def Item.sample : Item → Char
  | .year | .month | .day => '0'
  | .shortMonthName | .monthName => 'a'
  | .blank => ' '
  | .mark m => m

/-- The texts of two items begin with different characters. -/
def apart (a b : Item) : Bool := !a.opens b.sample && !b.opens a.sample

/-- The item `r` does not read a text that begins with one of `w`. -/
def clash (r w : Item) : Bool := apart r w && !r.skips w.sample

variable {a b r w : Item} {c : Char} {cs text rest digits : List Char} {date : Date} {parts : Parts} {years : Nat}
  {layout : Layout}

/-- No character begins texts of two items that are apart, though only one of each is tried. -/
theorem opens_eq_false (h : apart a b = true) (hc : b.opens c = true) : a.opens c = false := by
  simp only [apart, Bool.and_eq_true, Bool.not_eq_true'] at h
  obtain ⟨hab, hba⟩ := h
  have hletter : ¬ (isDigit c = true ∧ isLetter c = true) := fun h => by simp [isLetter_of_isDigit h.1] at h
  have hblank : ¬ (isDigit c = true ∧ isBlankChar c = true) := fun h => by simp [isBlankChar_of_isDigit h.1] at h
  have hblank' : ¬ (isLetter c = true ∧ isBlankChar c = true) := fun h => by simp [isBlankChar_of_isLetter h.1] at h
  rw [Bool.eq_false_iff]
  intro ha
  cases a with
  | mark m =>
    obtain rfl : c = m := by simpa [Item.opens] using ha
    exact Bool.eq_false_iff.1 hba hc
  | year | month | day | shortMonthName | monthName | blank =>
    cases b with
    | mark m =>
      obtain rfl : c = m := by simpa [Item.opens] using hc
      exact Bool.eq_false_iff.1 hab ha
    | year | month | day | shortMonthName | monthName | blank =>
      -- Items of one kind are not apart, and of two kinds no character is.
      first
      | exact absurd hab (by decide)
      | exact hletter ⟨ha, hc⟩
      | exact hletter ⟨hc, ha⟩
      | exact hblank ⟨ha, hc⟩
      | exact hblank ⟨hc, ha⟩
      | exact hblank' ⟨ha, hc⟩
      | exact hblank' ⟨hc, ha⟩

/-- An item that does not read one character that begins texts of another reads none of them. -/
theorem eq_false_of_clash (h : clash r w = true) (hc : w.opens c = true) : r.opens c = false ∧ r.skips c = false := by
  simp only [clash, Bool.and_eq_true, Bool.not_eq_true'] at h
  refine ⟨opens_eq_false h.1 hc, ?_⟩
  cases r with
  | blank => exact absurd h.2 (by simp [Item.skips])
  | shortMonthName | monthName | mark m => rfl
  | year | month | day =>
    cases w with
    | mark m =>
      obtain rfl : c = m := by simpa [Item.opens] using hc
      exact h.2
    | year | month | day => exact absurd h.1 (by decide)
    | blank => exact absurd h.2 (by decide)
    | shortMonthName | monthName =>
      have := isLetter_iff.1 hc
      have hminus : c ≠ '-' := by rintro rfl; exact absurd hc (by decide)
      have hplus : c ≠ '+' := by rintro rfl; exact absurd hc (by decide)
      simp [Item.skips, isBlankChar_of_isLetter hc, hminus, hplus]

/-! ## What an item reads -/

/-- An item reads no text that begins with none of its characters. -/
theorem Item.read?_eq_none (hr : r ≠ .blank) (h : ∀ c ∈ cs.head?, r.opens c = false ∧ r.skips c = false) :
    r.read? parts cs = none := by
  have hnumber : (∀ c ∈ cs.head?, isDigit c = false ∧ (isBlankChar c || c == '-' || c == '+') = false) →
      cs.dropWhile isBlankChar = cs ∧ (∀ sign rest, sign = '-' ∨ sign = '+' → cs ≠ sign :: rest) ∧
        ∀ most, readNumber? most cs = none := by
    intro h
    cases cs with
    | nil => simp [readNumber?]
    | cons c cs =>
      obtain ⟨hdigit, hskip⟩ := h c rfl
      simp only [Bool.or_eq_false_iff, beq_eq_false_iff_ne] at hskip
      refine ⟨by simp [hskip.1.1], by grind, fun most => ?_⟩
      cases most <;> simp [readNumber?, hdigit]
  cases r with
  | blank => exact absurd rfl hr
  | shortMonthName | monthName => simp only [read?, readShortMonth?_eq_none fun c hc => (h c hc).1, Option.map_none]
  | mark m =>
    cases cs with
    | nil => rfl
    | cons c cs => exact if_neg (by simpa [opens] using (h c rfl).1)
  | month | day =>
    obtain ⟨hskip, -, hread⟩ := hnumber h
    simp only [read?, hskip, hread, Option.map_none]
  | year =>
    obtain ⟨hskip, hsign, hread⟩ := hnumber h
    simp only [read?, hskip]
    split
    · exact absurd rfl (hsign _ _ (.inl rfl))
    · exact absurd rfl (hsign _ _ (.inr rfl))
    · rw [hread, Option.map_none]

/-- Of few digits a number takes all. -/
theorem readNumber?_append {most : Nat} (h : ∀ c ∈ digits, isDigit c = true) (hne : digits ≠ [])
    (hlength : digits.length ≤ most) (hrest : ∀ c ∈ rest.head?, isDigit c = false) :
    readNumber? most (digits ++ rest) = some (digitsValue digits, rest) := by
  have hread : ((digits ++ rest).take most).takeWhile isDigit = digits := by
    rw [List.take_append, List.take_of_length_le hlength, List.takeWhile_append_of_pos h]
    cases rest with
    | nil => simp
    | cons c rest => cases hmore : most - digits.length <;> simp [hrest c rfl]
  simp only [readNumber?, hread, List.isEmpty_eq_false_iff.2 hne, Bool.false_eq_true, if_false, List.drop_left]

/-- A word is dropped in either case. -/
theorem dropWord?_append {word : String} (h : text.length = word.length) :
    dropWord? word (text ++ rest) = if text.map Char.toLower = word.toList then some rest else none := by
  simp [dropWord?, ← h]

/-- The three letters that a month's name starts with are those of no other month. -/
theorem readShortMonth?_append {index : Nat} {name : String × String} (hname : name ∈ monthNames[index]?)
    (htext : text.map Char.toLower = name.1.toList) :
    readShortMonth? (text ++ rest) = some (index + 1, name.2, rest) := by
  have hlengths : ∀ name ∈ monthNames, name.1.length = 3 := by decide
  have hdistinct : monthNames.zipIdx.Pairwise fun earlier later => earlier.1.1 ≠ later.1.1 := by decide
  have hmem : (name, index) ∈ monthNames.zipIdx := List.mem_zipIdx_iff_getElem?.2 hname
  have hlength : text.length = 3 := by
    have hlower := congrArg List.length htext
    rwa [List.length_map, String.length_toList, hlengths _ (List.fst_mem_of_mem_zipIdx hmem)] at hlower
  have hword : ∀ other ∈ monthNames.zipIdx, dropWord? other.1.1 (text ++ rest) =
      if name.1.toList = other.1.1.toList then some rest else none := fun other hother => by
    rw [dropWord?_append (by rw [hlength, hlengths _ (List.fst_mem_of_mem_zipIdx hother)]), htext]
  obtain ⟨earlier, later, hsplit⟩ := List.append_of_mem hmem
  rw [readShortMonth?, List.findSome?_eq_some_iff]
  refine ⟨earlier, (name, index), later, hsplit, ?_, fun other hother => ?_⟩
  · simp only [hword _ hmem, if_pos, Option.map_some]
  · rw [hsplit, List.pairwise_append] at hdistinct
    have hne : name.1.toList ≠ other.1.1.toList := fun heq =>
      hdistinct.2.2 other hother _ List.mem_cons_self (String.toList_inj.1 heq).symm
    simp only [hword other (by simp [hsplit, hother]), if_neg hne, Option.map_none]

/-! ## What an item makes of a text of another -/

/-- The greatest number of digits in the texts of an item. -/
def Item.width (years : Nat) : Item → Nat
  | .year => years
  | .month | .day => 2
  | .shortMonthName | .monthName | .blank | .mark _ => 0

/-- The first item reads some texts of the second to their end. -/
def Item.reads (years : Nat) : Item → Item → Bool
  | .shortMonthName, w | .monthName, w => w == .shortMonthName || w == .monthName
  | .blank, w => w == .blank
  | .mark m, w => w == .mark m
  | r, w => 0 < w.most && w.width years ≤ r.most

/-- The first item reads some texts of the second, but not to their end. -/
def Item.breaksOff (years : Nat) : Item → Item → Bool
  | .shortMonthName, w => w == .monthName
  | .monthName, _ | .blank, _ | .mark _, _ => false
  | r, w => r.most < w.width years

/-- Of the same text both items read the same part of a date. -/
def Item.agrees (r w : Item) : Bool := r.most == 0 || r == w

/-- What an item has read of a text of another item, when `more` of this text is left. -/
structure Item.Leaves (years : Nat) (date : Date) (parts : Parts) (r w : Item) (more : List Char) (read : Parts) :
    Prop where
  reads : more = [] → r.reads years w = true
  agrees : more = [] → r.agrees w = true → read = r.fill date parts
  breaksOff : more ≠ [] → r.breaksOff years w = true
  opens : ∀ c ∈ more, w.opens c = true

theorem isLetter_of_mem_monthNames :
    ∀ name ∈ monthNames, name.1.toList ≠ [] ∧ ∀ c ∈ name.1.toList ++ name.2.toList, isLetter c = true := by
  have hletters : monthNames.all (fun name => !name.1.toList.isEmpty && (name.1.toList ++ name.2.toList).all isLetter) =
    true := rfl
  simpa [List.all_eq_true, or_imp, forall_and] using hletters

theorem Item.Writes.ne_nil (h : r.Writes years date text) : text ≠ [] := by
  cases r with
  | year | month | day => exact h.1.ne_nil
  | blank => exact h.1
  | mark m => rw [show text = [m] from h]; exact List.cons_ne_nil _ _
  | shortMonthName =>
    obtain ⟨name, hname, heq⟩ := h
    rintro rfl
    exact (isLetter_of_mem_monthNames _ (List.mem_of_getElem? hname)).1 heq.symm
  | monthName =>
    obtain ⟨name, hname, heq⟩ := h
    rintro rfl
    exact (isLetter_of_mem_monthNames _ (List.mem_of_getElem? hname)).1 (List.append_eq_nil_iff.1 heq.symm).1

theorem Item.Writes.opens (h : r.Writes years date text) : ∀ c ∈ text, r.opens c = true := by
  cases r with
  | year | month | day => exact h.1.isDigit
  | blank => exact fun c hc => (h.2 c hc).1
  | mark m =>
    rw [show text = [m] from h]
    simp [Item.opens]
  | shortMonthName =>
    obtain ⟨name, hname, heq⟩ := h
    intro c hc
    rw [Item.opens, ← isLetter_toLower]
    refine (isLetter_of_mem_monthNames _ (List.mem_of_getElem? hname)).2 _ (List.mem_append_left _ ?_)
    exact heq ▸ List.mem_map_of_mem hc
  | monthName =>
    obtain ⟨name, hname, heq⟩ := h
    intro c hc
    rw [Item.opens, ← isLetter_toLower]
    refine (isLetter_of_mem_monthNames _ (List.mem_of_getElem? hname)).2 _ ?_
    exact heq ▸ List.mem_map_of_mem hc

/-- The texts of a number, with the part of the date that they state. -/
theorem Item.Writes.number (parts : Parts) (hw : 0 < w.most) (h : w.Writes years date text) :
    (∀ c ∈ text, isDigit c = true) ∧ text.length ≤ w.width years ∧ (2 < w.width years → text.length = w.width years) ∧
      w.put (digitsValue text) parts = w.fill date parts := by
  cases w with
  | shortMonthName | monthName | blank | mark m => cases hw
  | year =>
    obtain ⟨hnumeral, hlength⟩ := h
    exact ⟨hnumeral.isDigit, hlength.le, fun _ => hlength, by simp only [put, fill, hnumeral.value]⟩
  | month | day =>
    obtain ⟨hnumeral, hlength⟩ := h
    refine ⟨hnumeral.isDigit, hlength, fun hmore => absurd hmore (by simp [width]), ?_⟩
    simp only [put, fill, Int.ofNat_inj.1 hnumeral.value]

theorem Item.eq_of_most (hr : 0 < r.most) : r = .year ∨ r = .month ∨ r = .day := by
  cases r with
  | year => exact .inl rfl
  | month => exact .inr (.inl rfl)
  | day => exact .inr (.inr rfl)
  | shortMonthName | monthName | blank | mark m => cases hr

theorem Item.Leaves.nil {read : Parts} (hreads : r.reads years w = true)
    (hagrees : r.agrees w = true → read = r.fill date parts) : Leaves years date parts r w [] read :=
  ⟨fun _ => hreads, fun _ => hagrees, fun h => absurd rfl h, fun _ hc => absurd hc List.not_mem_nil⟩

/-- Of the digits of another number an item reads all, or as many as it may. -/
theorem Item.exists_read?_number (hr : 0 < r.most) (hw : 0 < w.most) (h : w.Writes years date text)
    (hrest : ∀ c ∈ rest.head?, w.opens c = false) :
    ∃ more read, r.read? parts (text ++ rest) = some (read, more ++ rest) ∧ Leaves years date parts r w more read := by
  obtain ⟨hdigits, hlength, hexact, hvalue⟩ := h.number parts hw
  have hopens : w.opens = isDigit := by obtain rfl | rfl | rfl := eq_of_most hw <;> rfl
  have hreads : w.width years ≤ r.most → r.reads years w = true := by
    obtain rfl | rfl | rfl := eq_of_most hr <;> simp +contextual [reads, hw]
  have hbreaks : r.most < w.width years → r.breaksOff years w = true := by
    obtain rfl | rfl | rfl := eq_of_most hr <;> simp +contextual [breaksOff]
  have hleast : 2 ≤ r.most := by obtain rfl | rfl | rfl := eq_of_most hr <;> decide
  have hhead : ∀ c ∈ (text ++ rest).head?, isDigit c = true := fun c hc =>
    hdigits c (List.mem_of_mem_head? (by rwa [List.head?_append_of_ne_nil _ h.ne_nil] at hc))
  rw [read?_of_isDigit hr hhead]
  rcases Nat.lt_or_ge r.most text.length with hmany | hfew
  · have hmore : text.drop r.most ≠ [] := by rw [Ne, List.drop_eq_nil_iff]; omega
    refine ⟨text.drop r.most, r.put (digitsValue (text.take r.most)) parts, ?_, fun h => absurd h hmore,
      fun h => absurd h hmore, fun _ => hbreaks (by omega), fun c hc => ?_⟩
    · rw [readNumber?_digits hdigits hr hmany.le, Option.map_some]
    · rw [hopens]
      exact hdigits c (List.mem_of_mem_drop hc)
  · refine ⟨[], r.put (digitsValue text) parts, ?_, .nil (hreads ?_) fun hagrees => ?_⟩
    · rw [readNumber?_append hdigits h.ne_nil hfew (hopens ▸ hrest), Option.map_some, List.nil_append]
    · by_contra hmore
      exact absurd (hexact (by omega)) (by omega)
    · obtain rfl : r = w := by simpa [agrees, hr.ne'] using hagrees
      exact hvalue

/-- No word is dropped where no letter stands. -/
theorem dropWord?_getD {word : String} (hword : ∀ c ∈ word.toList, isLetter c = true)
    (hrest : ∀ c ∈ rest.head?, isLetter c = false) : (dropWord? word rest).getD rest = rest := by
  unfold dropWord?
  split
  · next heq =>
    rw [beq_iff_eq] at heq
    rw [← String.length_toList, ← heq]
    cases rest with
    | nil => simp
    | cons c rest =>
      cases hlength : word.length with
      | zero => simp
      | succ n =>
        have hletter : isLetter c.toLower = true := hword _ (by rw [← heq, hlength]; simp)
        rw [isLetter_toLower, hrest c rfl] at hletter
        cases hletter
  · rfl

/-- The texts of the name of a month: its first three letters, and what may follow them. -/
theorem Item.Writes.name (hw : w = .shortMonthName ∨ w = .monthName) (h : w.Writes years date text) :
    ∃ name ∈ monthNames[date.month - 1]?, ∃ start more, text = start ++ more ∧
      start.map Char.toLower = name.1.toList ∧ (w = .shortMonthName → more = []) ∧
      (w = .monthName → more.map Char.toLower = name.2.toList) := by
  obtain rfl | rfl := hw
  · obtain ⟨name, hname, heq⟩ := h
    exact ⟨name, hname, text, [], (List.append_nil _).symm, heq, fun _ => rfl, nofun⟩
  · obtain ⟨name, hname, heq⟩ := h
    obtain ⟨start, more, htext, hstart, hmore⟩ := List.map_eq_append_iff.1 heq
    exact ⟨name, hname, start, more, htext, hstart, nofun, fun _ => hmore⟩

/-- Of the name of a month an item reads all, or the three letters that it starts with. -/
theorem Item.exists_read?_name (hr : r = .shortMonthName ∨ r = .monthName) (hw : w = .shortMonthName ∨ w = .monthName)
    (h : w.Writes years date text) (hrest : ∀ c ∈ rest.head?, w.opens c = false) :
    ∃ more read, r.read? parts (text ++ rest) = some (read, more ++ rest) ∧ Leaves years date parts r w more read := by
  obtain ⟨name, hname, start, more, rfl, hstart, hshort, hfull⟩ := h.name hw
  have hmonth : date.month - 1 + 1 = date.month := Nat.sub_add_cancel date.isDay.2.1.1
  have hopens : w.opens = isLetter := by obtain rfl | rfl := hw <;> rfl
  have hread : readShortMonth? (start ++ more ++ rest) = some (date.month, name.2, more ++ rest) := by
    rw [List.append_assoc, readShortMonth?_append hname hstart, hmonth]
  obtain rfl | rfl := hr
  · refine ⟨more, { parts with month := some date.month }, by simp only [read?, hread, Option.map_some], ?_⟩
    refine ⟨fun _ => ?_, fun _ _ => rfl, fun hmore => ?_, fun c hc => h.opens c (List.mem_append_right _ hc)⟩
    · obtain rfl | rfl := hw <;> rfl
    · obtain rfl | rfl := hw
      · exact absurd (hshort rfl) hmore
      · rfl
  · have hdrop : (dropWord? name.2 (more ++ rest)).getD (more ++ rest) = rest := by
      obtain rfl | rfl := hw
      · rw [hshort rfl, List.nil_append]
        refine dropWord?_getD (fun c hc => ?_) hrest
        exact (isLetter_of_mem_monthNames _ (List.mem_of_getElem? hname)).2 c (List.mem_append_right _ hc)
      · have hlength : more.length = name.2.length := by
          rw [← String.length_toList, ← hfull rfl, List.length_map]
        rw [dropWord?_append hlength, if_pos (hfull rfl), Option.getD_some]
    refine ⟨[], { parts with month := some date.month }, ?_, .nil ?_ fun _ => rfl⟩
    · simp only [read?, hread, hdrop, Option.map_some, List.nil_append]
    · obtain rfl | rfl := hw <;> rfl

/-- What an item reads of a text of another that it gets on with. -/
theorem Item.exists_read?_append (parts : Parts) (hmeet : r.reads years w = true ∨ r.breaksOff years w = true)
    (h : w.Writes years date text) (hrest : ∀ c ∈ rest.head?, w.opens c = false) :
    ∃ more read, r.read? parts (text ++ rest) = some (read, more ++ rest) ∧ Leaves years date parts r w more read := by
  cases r with
  | year | month | day =>
    have hw : 0 < w.most := by
      cases w with
      | year | month | day => decide
      | shortMonthName | monthName | blank | mark m => simp [reads, breaksOff, width, most] at hmeet
    exact exists_read?_number (by decide) hw h hrest
  | shortMonthName | monthName =>
    have hw : w = .shortMonthName ∨ w = .monthName := by
      simp [reads, breaksOff] at hmeet
      grind
    exact exists_read?_name (by simp) hw h hrest
  | blank =>
    obtain rfl : w = .blank := by simpa [reads, breaksOff] using hmeet
    have hskip : rest.dropWhile isBlankChar = rest := dropWhile_eq_self hrest
    refine ⟨[], parts, ?_, .nil rfl fun _ => rfl⟩
    rw [read?, List.dropWhile_append_of_pos fun c hc => (h.2 c hc).1, hskip, List.nil_append]
  | mark m =>
    obtain rfl : w = .mark m := by simpa [reads, breaksOff] using hmeet
    obtain rfl : text = [m] := h
    exact ⟨[], parts, if_pos rfl, .nil (by simp [reads]) fun _ => rfl⟩

/-! ## What a layout makes of a writing in another -/

/-- No item of a layout begins where the one before can go on. -/
abbrev Separated (layout : Layout) : Prop := layout.IsChain fun a b => apart a b = true

/-- The layout reads no text that begins with a character of the item `w`. -/
def stops (w : Item) : Layout → Bool
  | [] => true
  | r :: reader => if r = .blank then apart .blank w && stops w reader else clash r w

/-- A writing in the second layout is not read in the first, or it is read as the same date; `same` says whether they
agree about what stands before it. -/
def settles (years : Nat) (same : Bool) : Layout → Layout → Bool
  | [], writer => same || !writer.isEmpty
  | r :: reader, [] => r != .blank || settles years same reader []
  | r :: reader, w :: writer =>
    if r = .blank ∧ apart .blank w then settles years same reader (w :: writer)
    else clash r w || (r.reads years w || r.breaksOff years w) && (!r.breaksOff years w || stops w reader) &&
      (!r.reads years w || settles years (same && r.agrees w) reader writer)

theorem Writes.opens_head (h : Writes years date layout cs) :
    ∀ item ∈ layout.head?, ∃ c ∈ cs.head?, item.opens c = true := by
  cases h with
  | nil => simp
  | @cons item items text rest hitem hrest =>
    obtain ⟨c, text, rfl⟩ := List.exists_cons_of_ne_nil hitem.ne_nil
    intro first hfirst
    obtain rfl : item = first := by simpa using hfirst
    exact ⟨c, rfl, hitem.opens c List.mem_cons_self⟩

/-- What stands behind a text of an item does not carry it on. -/
theorem Writes.opens_head_eq_false (hlayout : Separated (w :: layout)) (h : Writes years date layout cs) :
    ∀ c ∈ cs.head?, w.opens c = false := by
  cases layout with
  | nil =>
    cases h
    simp
  | cons next layout =>
    obtain ⟨c, hc, hopens⟩ := h.opens_head next rfl
    intro d hd
    obtain rfl : c = d := Option.mem_unique hc hd
    exact opens_eq_false (List.isChain_cons_cons.1 hlayout).1 hopens

/-- Where a layout stops, it reads nothing, whatever stands behind the first character. -/
theorem readItems?_of_stops : ∀ {reader : Layout} {parts : Parts}, stops w reader = true → w.opens c = true →
    readItems? parts (c :: cs) reader = none
  | [], _, _, _ => rfl
  | r :: reader, parts, h, hc => by
    rw [stops] at h
    split at h
    · next hblank =>
      subst hblank
      rw [Bool.and_eq_true] at h
      have hskip : isBlankChar c = false := opens_eq_false h.1 hc
      rw [readItems?, Item.read?, List.dropWhile_cons_of_neg (by simp [hskip]), Option.bind_some]
      exact readItems?_of_stops h.2 hc
    · next hblank =>
      rw [readItems?, Item.read?_eq_none hblank (by simpa using eq_false_of_clash h hc), Option.bind_none]

/-- **What settles is settled.** What the first layout reads of a writing in the second is the date that was written. -/
theorem eq_fill_of_settles {reader writer : Layout} {same : Bool} {found : Parts}
    (hsettles : settles years same reader writer = true) (hwriter : Separated writer)
    (hwrites : Writes years date writer cs) (hread : readItems? parts cs reader = some found) :
    same = true ∧ found = fill date parts reader := by
  induction reader generalizing writer same parts cs with
  | nil =>
    cases hwrites with
    | nil =>
      obtain rfl : parts = found := Option.some.inj hread
      exact ⟨by simpa [settles] using hsettles, rfl⟩
    | cons hitem hrest => simp [readItems?, hitem.ne_nil] at hread
  | cons r reader ih =>
    rw [readItems?] at hread
    cases hwrites with
    | nil =>
      by_cases hblank : r = .blank
      · subst hblank
        exact ih (by simpa [settles] using hsettles) hwriter .nil hread
      · rw [Item.read?_eq_none hblank (by simp)] at hread
        cases hread
    | @cons w writer text rest hitem hrest =>
      obtain ⟨c, more, hcs⟩ := List.exists_cons_of_ne_nil hitem.ne_nil
      have hopens : w.opens c = true := hitem.opens c (by simp [hcs])
      rw [settles] at hsettles
      split at hsettles
      · next hblank =>
        obtain ⟨rfl, hapart⟩ := hblank
        have hskip : (text ++ rest).dropWhile isBlankChar = text ++ rest := by
          have hc : isBlankChar c = false := opens_eq_false hapart hopens
          simp [hcs, hc]
        rw [Item.read?, hskip] at hread
        exact ih hsettles hwriter (.cons hitem hrest) hread
      · simp only [Bool.or_eq_true, Bool.and_eq_true, Bool.not_eq_true'] at hsettles
        rcases hsettles with hclash | ⟨⟨hmeet, hstops⟩, hgoes⟩
        · have hblank : r ≠ .blank := by
            rintro rfl
            simp [clash, Item.skips] at hclash
          rw [Item.read?_eq_none hblank (by simpa [hcs] using eq_false_of_clash hclash hopens)] at hread
          cases hread
        · obtain ⟨more, read, hitemRead, hleaves⟩ :=
            Item.exists_read?_append parts hmeet hitem (hrest.opens_head_eq_false hwriter)
          rw [hitemRead, Option.bind_some] at hread
          cases more with
          | nil =>
            have hnext := hgoes.resolve_left (by simp [hleaves.reads rfl])
            obtain ⟨hsame, rfl⟩ := ih hnext hwriter.of_cons hrest hread
            rw [Bool.and_eq_true] at hsame
            exact ⟨hsame.1, by rw [hleaves.agrees rfl hsame.2]; rfl⟩
          | cons d more =>
            have hnext := hstops.resolve_left (by simp [hleaves.breaksOff (List.cons_ne_nil _ _)])
            have hnone : readItems? read (d :: more ++ rest) reader = none :=
              readItems?_of_stops hnext (hleaves.opens d List.mem_cons_self)
            cases hnone.symm.trans hread

/-- An item reads its own texts. -/
theorem Item.Writes.read? (hyears : years ≤ 4) (h : r.Writes years date text)
    (hrest : ∀ c ∈ rest.head?, r.opens c = false) : r.read? parts (text ++ rest) = some (r.fill date parts, rest) := by
  have hreads : r.reads years r = true := by
    cases r with
    | year => exact decide_eq_true hyears
    | month | day | shortMonthName | monthName | blank => rfl
    | mark m => exact beq_self_eq_true _
  have hbreaks : r.breaksOff years r = false := by
    cases r with
    | year => exact decide_eq_false (Nat.not_lt.2 hyears)
    | month | day | shortMonthName | monthName | blank | mark m => rfl
  obtain ⟨more, read, hread, hleaves⟩ := exists_read?_append parts (.inl hreads) h hrest
  obtain rfl : more = [] := by
    by_contra hmore
    simp [hleaves.breaksOff hmore] at hbreaks
  rw [hread, hleaves.agrees rfl (by simp [agrees]), List.nil_append]

/-- A layout reads its own writings. -/
theorem readItems?_of_writes (hlayout : Separated layout) (hyears : years ≤ 4) (h : Writes years date layout cs) :
    readItems? parts cs layout = some (fill date parts layout) := by
  induction h generalizing parts with
  | nil => rfl
  | @cons item items text rest hitem hrest ih =>
    rw [readItems?, hitem.read? hyears (hrest.opens_head_eq_false hlayout), Option.bind_some]
    exact ih hlayout.of_cons

/-! ## Runs of digits -/

/-- The digits in the writings of a layout are those of its numbers. -/
abbrev Numbered (layout : Layout) : Prop := ∀ item ∈ layout, 0 < item.most ∨ apart item .day = true

/-- **No run of digits in a writing is longer than its year or two digits.** -/
theorem Writes.length_le_of_infix (hlayout : Separated layout) (hnumbered : Numbered layout)
    (h : Writes years date layout cs) (hdigits : ∀ c ∈ digits, isDigit c = true) (hwithin : digits <:+: cs) :
    digits.length ≤ max 2 years := by
  induction h generalizing digits with
  | nil => simp [List.infix_nil.1 hwithin]
  | @cons item items text rest hitem hrest ih =>
    -- A run that starts in the text is one of a number, so that it ends there too.
    have hnumber : ∀ c ∈ text, isDigit c = true → item.opens = isDigit ∧ text.length ≤ max 2 years := by
      intro c hc hdigit
      have hmost : 0 < item.most := by
        refine (hnumbered item List.mem_cons_self).resolve_right fun hapart => ?_
        have hopens : item.opens c = false := opens_eq_false hapart hdigit
        rw [hitem.opens c hc] at hopens
        cases hopens
      refine ⟨by obtain rfl | rfl | rfl := Item.eq_of_most hmost <;> rfl, ?_⟩
      refine (hitem.number {} hmost).2.1.trans ?_
      obtain rfl | rfl | rfl := Item.eq_of_most hmost <;> simp [Item.width]
    rcases List.infix_append_iff_ne_nil.1 hwithin with htext | hlater |
        ⟨front, behind, hfront, hbehind, rfl, hsuffix, hprefix⟩
    · cases digits with
      | nil => simp
      | cons c digits =>
        have hc : c ∈ c :: digits := List.mem_cons_self
        exact htext.length_le.trans (hnumber c (htext.subset hc) (hdigits c hc)).2
    · exact ih hlayout.of_cons (fun item hmem => hnumbered item (List.mem_cons_of_mem _ hmem)) hdigits hlater
    · obtain ⟨c, front, rfl⟩ := List.exists_cons_of_ne_nil hfront
      obtain ⟨d, behind, rfl⟩ := List.exists_cons_of_ne_nil hbehind
      have hopens := (hnumber c (hsuffix.subset List.mem_cons_self) (hdigits c (by simp))).1
      have hd : item.opens d = false := by
        obtain ⟨more, rfl⟩ := hprefix
        exact hrest.opens_head_eq_false hlayout d rfl
      rw [hopens, hdigits d (by simp)] at hd
      cases hd

/-! ## The edges of a writing -/

theorem Writes.not_mem_lineBreak (hmarks : Item.mark '\n' ∉ layout) (h : Writes years date layout cs) : '\n' ∉ cs := by
  induction h with
  | nil => exact List.not_mem_nil
  | @cons item items text rest hitem hrest ih =>
    rw [List.mem_append, not_or]
    refine ⟨fun hmem => ?_, ih fun hmem => hmarks (List.mem_cons_of_mem _ hmem)⟩
    have hopens := hitem.opens _ hmem
    cases item with
    | year | month | day | shortMonthName | monthName => exact absurd hopens (by decide)
    | blank => exact (hitem.2 _ hmem).2 rfl
    | mark m =>
      obtain rfl : '\n' = m := by simpa [Item.opens] using hopens
      exact hmarks List.mem_cons_self

theorem Writes.opens_getLast (h : Writes years date layout cs) :
    ∀ item ∈ layout.getLast?, ∀ c ∈ cs.getLast?, item.opens c = true := by
  induction h with
  | nil => simp
  | @cons item items text rest hitem hrest ih =>
    cases hrest with
    | nil =>
      intro last hlast c hc
      obtain rfl : item = last := by simpa using hlast
      exact hitem.opens c (List.mem_of_mem_getLast? (by simpa using hc))
    | @cons next items text' rest hnext hrest =>
      rw [List.getLast?_cons_cons, List.getLast?_append_of_ne_nil _ (by simp [hnext.ne_nil])]
      exact ih

/-! ## The layouts of trade documents -/

/-- The layout of which an earlier one reads the writings with a short year, the day for the year. -/
def dayMonthYear : Layout := [.day, .mark '-', .month, .mark '-', .year]

theorem separated_of_mem_onDocuments : ∀ layout ∈ onDocuments, Separated layout := by decide +kernel

theorem numbered_of_mem_onDocuments : ∀ layout ∈ onDocuments, Numbered layout := by decide +kernel

/-- The layouts start and end with no blank and stand on one line. -/
theorem edges_of_mem_onDocuments : ∀ layout ∈ onDocuments, .mark '\n' ∉ layout ∧
    layout.head?.any (apart .blank) = true ∧ layout.getLast?.any (apart .blank) = true := by decide +kernel

theorem fill_of_mem_onDocuments (date : Date) :
    ∀ layout ∈ onDocuments, fill date {} layout = ⟨some date.year, some date.month, some date.day⟩ := by
  simp [onDocuments, fill, Item.fill]

/-- Layouts do not take writings with a year of four digits for other dates. -/
theorem settles_onDocuments : ∀ reader ∈ onDocuments, ∀ writer ∈ onDocuments,
    settles 4 true reader writer = true := by decide +kernel

/-- An earlier layout does not take a writing for another date, but for years of one or two digits in one layout. -/
theorem pairwise_settles_onDocuments : ∀ years ≤ 4, onDocuments.Pairwise fun earlier later =>
    3 ≤ years ∨ later ≠ dayMonthYear → settles years true earlier later = true := by decide +kernel

theorem read?_of_writes (hlayout : layout ∈ onDocuments) (hyears : years ≤ 4) (h : Writes years date layout cs) :
    layout.read? (String.ofList cs) = some date := by
  rw [read?, String.toList_ofList, readItems?_of_writes (separated_of_mem_onDocuments _ hlayout) hyears h,
    fill_of_mem_onDocuments date _ hlayout, Option.bind_some]
  exact date.make?_self

theorem eq_of_read? {reader writer : Layout} {found : Date} (hreader : reader ∈ onDocuments)
    (hwriter : writer ∈ onDocuments) (hsettles : settles years true reader writer = true)
    (h : Writes years date writer cs) (hread : reader.read? (String.ofList cs) = some found) : found = date := by
  rw [read?, String.toList_ofList, Option.bind_eq_some_iff] at hread
  obtain ⟨parts, hparts, hfound⟩ := hread
  obtain ⟨-, rfl⟩ := eq_fill_of_settles hsettles (separated_of_mem_onDocuments _ hwriter) h hparts
  rw [fill_of_mem_onDocuments date _ hreader] at hfound
  exact Option.some.inj (hfound.symm.trans date.make?_self)

end DocumentaryCredit.Layout

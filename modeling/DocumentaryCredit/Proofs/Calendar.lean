/-
Days and the digits they are written with. Six digits and eight digits that start with these six never name the same
day. An item of a layout reads a number of a bounded length, so that a layout has a greatest number of digits with
which its texts start, and gets stuck in front of more; for the layouts of trade documents these are four digits.
-/
import DocumentaryCredit.Calendar.Layout
import DocumentaryCredit.Proofs.Text

namespace DocumentaryCredit

open Text

/-! ## Days -/

theorem daysInMonth_le (year : Int) (month : Nat) : daysInMonth year month ≤ 31 := by
  unfold daysInMonth
  grind

namespace Date

theorem of_make? {year : Int} {month day : Nat} {date : Date} (h : make? year month day = some date) :
    date.year = year ∧ date.month = month ∧ date.day = day := by
  unfold make? at h
  split at h
  · cases h
    exact ⟨rfl, rfl, rfl⟩
  · cases h

theorem make?_self (date : Date) : make? date.year date.month date.day = some date := dif_pos date.isDay

/-- Six digits with two more behind them do not name the day that the six name: the third and fourth digit are a month
in the one reading and end the year in the other. -/
theorem ofDigits?_append_ne {digits more : List Char} {date : Date} (hlength : digits.length = 6)
    (hmore : more.length = 2) (h : ofDigits? digits = some date) : ofDigits? (digits ++ more) ≠ some date := by
  obtain ⟨y₁, y₂, m₁, m₂, d₁, d₂, rfl⟩ : ∃ y₁ y₂ m₁ m₂ d₁ d₂, digits = [y₁, y₂, m₁, m₂, d₁, d₂] := by
    match digits, hlength with
    | [y₁, y₂, m₁, m₂, d₁, d₂], _ => exact ⟨y₁, y₂, m₁, m₂, d₁, d₂, rfl⟩
  obtain ⟨e₁, e₂, rfl⟩ := List.length_eq_two.1 hmore
  intro h'
  have hyear : digitsValue [y₁, y₂, m₁, m₂] = 100 * digitsValue [y₁, y₂] + digitsValue [m₁, m₂] := by
    simp [digitsValue]
    omega
  simp only [ofDigits?, List.cons_append, List.nil_append] at h h'
  split at h
  · cases h
  split at h'
  · cases h'
  obtain ⟨hshort, hmonth, -⟩ := of_make? h
  obtain ⟨hlong, -⟩ := of_make? h'
  have hgreatest := date.isDay.2.1.2
  rw [hlong, hyear] at hshort
  split at hshort <;> omega

end Date

/-! ## Layouts -/

namespace Layout

variable {c : Char} {cs digits rest : List Char}

/-- The greatest number of digits that the texts of a layout start with. -/
def leadingDigits : Layout → Nat
  | [] => 0
  | .year :: items => 4 + leadingDigits items
  | .month :: items | .day :: items => 2 + leadingDigits items
  | .blank :: items => leadingDigits items
  | .mark c :: items => if isDigit c then 1 + leadingDigits items else 0
  | .shortMonthName :: _ | .monthName :: _ => 0

/-- The name of a month starts with a letter. -/
theorem readShortMonth?_eq_none (h : ∀ c ∈ cs.head?, isLetter c = false) : readShortMonth? cs = none := by
  have hnames : ∀ month ∈ monthNames, month.1.length = 3 ∧ month.1.toList.head?.any isLetter = true := by decide
  rw [readShortMonth?, List.findSome?_eq_none_iff]
  rintro ⟨⟨start, completion⟩, index⟩ hmem
  obtain ⟨hlength, hfirst⟩ := hnames _ (List.fst_mem_of_mem_zipIdx hmem)
  simp only [dropWord?, Option.map_eq_none_iff, ite_eq_right_iff, reduceCtorEq, imp_false, beq_iff_eq]
  intro heq
  rw [← heq, hlength] at hfirst
  cases cs with
  | nil => simp at hfirst
  | cons c cs => simp [isLetter_toLower, h c rfl] at hfirst

/-- Of enough digits a number takes as many as it may. -/
theorem readNumber?_digits {most : Nat} (h : ∀ c ∈ digits, isDigit c = true) (hmost : 0 < most)
    (hlength : most ≤ digits.length) (rest : List Char) :
    readNumber? most (digits ++ rest) = some (digitsValue (digits.take most), digits.drop most ++ rest) := by
  have htake : ((digits ++ rest).take most).takeWhile isDigit = digits.take most := by
    rw [List.take_append_of_le_length hlength]
    exact List.takeWhile_eq_self_iff.2 fun c hc => h c (List.mem_of_mem_take hc)
  have hlengthTake : (digits.take most).length = most := List.length_take_of_le hlength
  have hne : (digits.take most).isEmpty = false := by
    rw [List.isEmpty_eq_false_iff]
    exact List.ne_nil_of_length_pos (by omega)
  simp only [readNumber?, htake, hne, Bool.false_eq_true, if_false, hlengthTake]
  rw [List.drop_append_of_le_length hlength]

/-- The greatest number of digits that an item reads without a sign. -/
def Item.most : Item → Nat
  | .year => 4
  | .month | .day => 2
  | .shortMonthName | .monthName | .blank | .mark _ => 0

/-- The parts with the number that an item has read. -/
def Item.put (n : Nat) (parts : Parts) : Item → Parts
  | .year => { parts with year := some n }
  | .month => { parts with month := some n }
  | .day => { parts with day := some n }
  | .shortMonthName | .monthName | .blank | .mark _ => parts

/-- In front of a digit an item reads a number of as many digits as it may. -/
theorem Item.read?_of_isDigit {r : Item} {parts : Parts} (hr : 0 < r.most)
    (h : ∀ c ∈ cs.head?, isDigit c = true) :
    r.read? parts cs = (readNumber? r.most cs).map fun (n, rest) => (r.put n parts, rest) := by
  have hskip : cs.dropWhile isBlankChar = cs :=
    dropWhile_eq_self fun c hc => isBlankChar_of_isDigit (h c hc)
  cases r with
  | shortMonthName | monthName | blank | mark m => cases hr
  | month | day => simp only [read?, hskip, most, put]
  | year =>
    simp only [read?, hskip]
    split
    · exact absurd (h '-' rfl) (by decide)
    · exact absurd (h '+' rfl) (by decide)
    · rfl

/-- A layout reads no text that starts with more digits than it asks for. -/
theorem readItems?_eq_none_of_digits : ∀ {layout : Layout} {parts : Parts} {digits : List Char},
    (∀ c ∈ digits, isDigit c = true) → layout.leadingDigits < digits.length →
      readItems? parts (digits ++ rest) layout = none
  | layout, parts, [], _, hlength => by simp at hlength
  | [], parts, c :: digits, _, _ => by simp [readItems?]
  | item :: items, parts, c :: digits, h, hlength => by
    have hc : isDigit c = true := h c (by simp)
    -- A number takes the digits that it may have, and leaves more than the other items ask for.
    have hnumber : 0 < item.most → item.most + leadingDigits items < (c :: digits).length →
        readItems? parts (c :: digits ++ rest) (item :: items) = none := by
      intro hmost hmore
      rw [readItems?, Item.read?_of_isDigit hmost (by simp [hc]), readNumber?_digits h hmost (by omega)]
      exact readItems?_eq_none_of_digits (fun d hd => h d (List.mem_of_mem_drop hd)) (by rw [List.length_drop]; omega)
    cases item with
    | year | month | day => exact hnumber (by decide) hlength
    | shortMonthName | monthName =>
      have hname : readShortMonth? (c :: digits ++ rest) = none :=
        readShortMonth?_eq_none (by simp [isLetter_of_isDigit hc])
      simp only [readItems?, Item.read?, hname, Option.map_none, Option.bind_none]
    | blank =>
      have hskip : (c :: digits ++ rest).dropWhile isBlankChar = c :: digits ++ rest := by
        simp [isBlankChar_of_isDigit hc]
      simp only [readItems?, Item.read?, hskip, Option.bind_some]
      exact readItems?_eq_none_of_digits h hlength
    | mark m =>
      simp only [readItems?, Item.read?, List.cons_append]
      split
      · next heq =>
        subst heq
        rw [leadingDigits, if_pos hc, List.length_cons, Nat.add_comm 1, Nat.add_lt_add_iff_right] at hlength
        exact readItems?_eq_none_of_digits (fun d hd => h d (List.mem_cons_of_mem _ hd)) hlength
      · rfl
  termination_by layout => layout

/-- **No layout of trade documents reads a text that starts with more than four digits.** -/
theorem findSome?_onDocuments_of_digits (h : ∀ c ∈ digits, isDigit c = true) (hlength : 4 < digits.length) :
    onDocuments.findSome? (fun layout => layout.read? (String.ofList (digits ++ rest))) = none := by
  have hlayouts : ∀ layout ∈ onDocuments, layout.leadingDigits ≤ 4 := by decide
  rw [List.findSome?_eq_none_iff]
  intro layout hlayout
  rw [read?, String.toList_ofList, readItems?_eq_none_of_digits h ((hlayouts layout hlayout).trans_lt hlength),
    Option.bind_none]

end Layout

end DocumentaryCredit

/-
The language of format specifications, said as a grammar. A specification is spelled by items, each with its own
spellings (`Item.Spelled`, `Spells`), and the items are those of a row of pieces: components with an optional separator,
and groups of them (`Piece`). Main statement: a text is compiled exactly when it has such a derivation, and the format
has the derivation's components in order, each with the separator before it and the number of its group.

Reading is followed item by item. What a draft still needs in order to become given components is said by the
grammar as well (`Draft.Completes`), so that each item is one step of both.
-/
import DocumentaryCredit.Format.Specification
import DocumentaryCredit.Proofs.Computation
import DocumentaryCredit.Proofs.Text

namespace DocumentaryCredit.Format

/-! ## The spelling of items -/

/-- The digits of a number from 1 to 65535. -/
structure IsNumber (digits : List Char) (n : Nat) : Prop where
  isDigit : ∀ c ∈ digits, Text.isDigit c = true
  value : Text.digitsValue digits = n
  pos : 0 < n
  le : n ≤ Text.maxNat16

/-- The texts of a component. -/
inductive Shape.Spelled : Shape → List Char → Prop where
  | fixed {digits : List Char} {n : Nat} {letter : Char} {set : Charset} (hn : IsNumber digits n)
      (hset : Charset.ofCode? letter = some set) : Spelled ⟨.fixed, set, n, n, none⟩ (digits ++ ['!', letter])
  | upTo {digits : List Char} {n : Nat} {letter : Char} {set : Charset} (hn : IsNumber digits n)
      (hset : Charset.ofCode? letter = some set) : Spelled ⟨.variable, set, 1, n, none⟩ (digits ++ [letter])
  /-- The number of lines in front, as in `4*35x`. -/
  | linesBefore {count digits : List Char} {lines width : Nat} {letter : Char} {set : Charset}
      (hlines : IsNumber count lines) (hwidth : IsNumber digits width) (hset : Charset.ofCode? letter = some set)
      (hdecimal : set ≠ .decimal) :
      Spelled ⟨.repeated, set, 1, width, some lines⟩ (count ++ '*' :: (digits ++ [letter]))
  /-- The number of lines behind, as in `35x*4`. -/
  | linesBehind {count digits : List Char} {lines width : Nat} {letter : Char} {set : Charset}
      (hlines : IsNumber count lines) (hwidth : IsNumber digits width) (hset : Charset.ofCode? letter = some set)
      (hdecimal : set ≠ .decimal) :
      Spelled ⟨.repeated, set, 1, width, some lines⟩ (digits ++ letter :: '*' :: count)
  | longDate : Spelled ⟨.fixed, .date, 8, 8, none⟩ "YYYYMMDD".toList
  | shortDate : Spelled ⟨.fixed, .date, 6, 6, none⟩ "YYMMDD".toList

/-- The texts of an item. -/
inductive Item.Spelled : Item → List Char → Prop where
  | openGroup : Spelled .openGroup ['[']
  | closeGroup : Spelled .closeGroup [']']
  | slash : Spelled (.separator .slash) ['/']
  | lineFeed : Spelled (.separator .newline) ['\n']
  | carriageReturn : Spelled (.separator .newline) ['\r', '\n']
  | escape : Spelled (.separator .newline) ['\\', 'n']
  | component {shape : Shape} {text : List Char} (h : shape.Spelled text) : Spelled (.component shape) text

/-- No number is cut short: a text that ends in a digit does not stand before another digit. -/
def Apart (text rest : List Char) : Prop :=
  ∀ c ∈ text.getLast?, Text.isDigit c = true → ∀ d ∈ rest.head?, Text.isDigit d = false

/-- The items spell a text, their numbers as long as they can be. -/
inductive Spells : List Item → List Char → Prop where
  | nil : Spells [] []
  | cons {item : Item} {items : List Item} {text rest : List Char} (hitem : item.Spelled text)
      (hapart : Apart text rest) (hrest : Spells items rest) : Spells (item :: items) (text ++ rest)

/-! ## Pieces -/

/-- The item of a separator, if there is one. -/
def separatorItems : Separator → List Item
  | .none => []
  | s => [.separator s]

/-- A component with the separator before it. -/
structure Part where
  separator : Separator
  shape : Shape

namespace Part

def items (p : Part) : List Item := separatorItems p.separator ++ [.component p.shape]

/-- The component of a format that the part stands for. -/
def component (group : Option Nat) (p : Part) : Component where
  extent := p.shape.extent
  charset := p.shape.charset
  minLength := p.shape.minLength
  maxLength := p.shape.maxLength
  lines := p.shape.lines
  separator := p.separator
  group := group

end Part

/-- A piece of a specification. -/
inductive Piece where
  | single (part : Part)
  /-- A group, with the separator of its first component before the bracket. -/
  | group (first : Part) (others : List Part)
  /-- A group that begins with a separator. -/
  | groupInside (first : Part) (hseparator : first.separator ≠ .none) (others : List Part)

namespace Piece

def items : Piece → List Item
  | single part => part.items
  | group first others =>
    separatorItems first.separator ++
      .openGroup :: .component first.shape :: (others.flatMap Part.items ++ [.closeGroup])
  | groupInside first _ others => .openGroup :: ((first :: others).flatMap Part.items ++ [.closeGroup])

end Piece

/-- The components of pieces; the groups are numbered from `next` on. -/
def numbered (next : Nat) : List Piece → List Component
  | [] => []
  | .single part :: rest => part.component none :: numbered next rest
  | .group first others :: rest | .groupInside first _ others :: rest =>
    (first :: others).map (Part.component (some next)) ++ numbered (next + 1) rest

/-- The components do not begin with a line break. -/
def OpensInLine (components : List Component) : Prop := ∀ c ∈ components.head?, c.separator ≠ .newline

/-- The pieces are a derivation of a specification. -/
structure Derives (pieces : List Piece) (spec : String) : Prop where
  nonempty : pieces ≠ []
  spells : Spells (pieces.flatMap Piece.items) spec.toList
  opens : OpensInLine (numbered 0 pieces)

/-! ## Reading an item -/

theorem Apart.append_left {front text rest : List Char} (h : Apart text rest) (hne : text ≠ []) :
    Apart (front ++ text) rest := by
  intro c hc
  rw [List.getLast?_append_of_ne_nil _ hne] at hc
  exact h c hc

theorem Apart.of_not_digit (text : List Char) {rest : List Char} {c : Char} (hc : Text.isDigit c = false) :
    Apart (text ++ [c]) rest := by
  intro c' hc' hdigit
  rw [List.getLast?_concat] at hc'
  cases hc'
  rw [hc] at hdigit
  cases hdigit

theorem IsNumber.ne_nil {digits : List Char} {n : Nat} (h : IsNumber digits n) : digits ≠ [] := by
  rintro rfl
  have hpos := h.pos
  rw [← h.value] at hpos
  exact absurd hpos (by decide)

theorem Apart.not_digit (front : List Char) {digits rest : List Char} {n : Nat} (h : Apart (front ++ digits) rest)
    (hn : IsNumber digits n) : ∀ d ∈ rest.head?, Text.isDigit d = false := by
  refine h (digits.getLast hn.ne_nil) ?_ (hn.isDigit _ (List.getLast_mem hn.ne_nil))
  rw [List.getLast?_append_of_ne_nil _ hn.ne_nil]
  exact List.getLast?_eq_some_getLast hn.ne_nil

/-- The letter of a character set is no other mark of a specification. -/
theorem charset_of_ofCode? {letter : Char} {set : Charset} (h : Charset.ofCode? letter = some set) :
    set ≠ .date ∧ Text.isDigit letter = false ∧ letter ≠ '*' ∧ letter ≠ '!' := by
  unfold Charset.ofCode? at h
  split at h <;> cases h <;> decide

section Scan

variable {cs front rest digits text : List Char} {i j n : Nat} {c : Char} {set : Charset} {shape : Shape}

theorem drop_of_getElem? (h : cs[i]? = some c) : cs.drop i = c :: cs.drop (i + 1) := by
  obtain ⟨hi, rfl⟩ := List.getElem?_eq_some_iff.1 h
  exact List.drop_eq_getElem_cons hi

theorem exists_of_scanNumber (h : scanNumber cs i = .ok (n, j)) :
    ∃ digits, cs.drop i = digits ++ cs.drop j ∧ j = i + digits.length ∧ IsNumber digits n ∧
      ∀ d ∈ (cs.drop j).head?, Text.isDigit d = false := by
  unfold scanNumber at h
  simp only at h
  split at h
  · cases h
  split at h
  · cases h
  next hle hpos =>
    cases h
    have hrest : cs.drop (i + ((cs.drop i).takeWhile Text.isDigit).length) = (cs.drop i).dropWhile Text.isDigit := by
      rw [← List.drop_drop, Text.drop_length_takeWhile]
    refine ⟨_, ?_, rfl, ⟨fun c hc => List.mem_takeWhile_imp hc, rfl, Nat.pos_of_ne_zero hpos, Nat.not_lt.1 hle⟩, ?_⟩
    · rw [hrest, List.takeWhile_append_dropWhile]
    · rw [hrest]
      exact Text.head?_dropWhile_eq_false

theorem getElem?_of_drop (h : cs.drop i = rest) : cs[i]? = rest.head? := by
  rw [← h, List.head?_drop]

theorem drop_of_drop (h : cs.drop i = text ++ rest) : cs.drop (i + text.length) = rest := by
  rw [← List.drop_drop, h, List.drop_left]

theorem drop_succ_of_drop (h : cs.drop i = c :: rest) : cs.drop (i + 1) = rest := by
  rw [← List.tail_drop, h, List.tail_cons]

theorem scanNumber_of_drop (h : cs.drop i = digits ++ rest) (hn : IsNumber digits n)
    (hrest : ∀ d ∈ rest.head?, Text.isDigit d = false) : scanNumber cs i = .ok (n, i + digits.length) := by
  have htake : (cs.drop i).takeWhile Text.isDigit = digits := by
    rw [h, List.takeWhile_append_of_pos hn.isDigit]
    cases rest with
    | nil => simp
    | cons d rest => simp [hrest d rfl]
  unfold scanNumber
  simp only [htake, hn.value]
  rw [if_neg (Nat.not_lt.2 hn.le), if_neg hn.pos.ne']

theorem digitAt_of_drop (h : cs.drop i = digits ++ rest) (hn : IsNumber digits n) : digitAt cs i = true := by
  obtain ⟨d, more, rfl⟩ := List.exists_cons_of_ne_nil hn.ne_nil
  unfold digitAt
  rw [getElem?_of_drop h]
  exact hn.isDigit d (by simp)

theorem scanCharset_eq_ok_iff : scanCharset cs i = .ok (set, j) ↔
    ∃ letter, cs[i]? = some letter ∧ Charset.ofCode? letter = some set ∧ j = i + 1 := by
  unfold scanCharset
  cases cs[i]? with
  | none => simp
  | some letter => cases h : Charset.ofCode? letter <;> simp [h, eq_comm]

theorem linesShape_eq_ok_iff {lines width : Nat} : linesShape set lines width i = .ok (shape, j) ↔
    set ≠ .decimal ∧ shape = ⟨.repeated, set, 1, width, some lines⟩ ∧ j = i := by
  unfold linesShape
  split
  · next h => simp [h]
  · next h => simp [h, eq_comm]

/-- The first `n` characters of a text are a spelling, and no number in it is cut short. -/
def Begins (spelled : List Char → Prop) (cs : List Char) (n : Nat) : Prop :=
  ∃ text, cs = text ++ cs.drop n ∧ n = text.length ∧ spelled text ∧ Apart text (cs.drop n)

/-- What is read as a component that starts with a number is spelled like one. -/
theorem begins_of_scanLength (h : scanLength cs = .ok (shape, n)) : Begins shape.Spelled cs n := by
  unfold scanLength at h
  obtain ⟨⟨first, i⟩, hfirst, h⟩ := Except.bind_eq_ok_iff.1 h
  obtain ⟨digits, hcs, rfl, hdigits, -⟩ := exists_of_scanNumber hfirst
  rw [List.drop_zero] at hcs
  simp only [Nat.zero_add] at h hcs
  split at h
  · next hstar =>
    split at h
    · cases h
    obtain ⟨⟨width, j⟩, hwidth, h⟩ := Except.bind_eq_ok_iff.1 h
    obtain ⟨more, hmore, rfl, hmores, -⟩ := exists_of_scanNumber hwidth
    simp only at h
    split at h
    · cases h
    obtain ⟨⟨set, k⟩, hset, h⟩ := Except.bind_eq_ok_iff.1 h
    obtain ⟨letter, hletter, hcode, rfl⟩ := scanCharset_eq_ok_iff.1 hset
    obtain ⟨hdecimal, rfl, rfl⟩ := linesShape_eq_ok_iff.1 h
    refine ⟨digits ++ '*' :: (more ++ [letter]), ?_, ?_, .linesBefore hdigits hmores hcode hdecimal, ?_⟩
    · conv_lhs => rw [hcs, drop_of_getElem? hstar, hmore, drop_of_getElem? hletter]
      simp
    · simp only [List.length_append, List.length_cons, List.length_nil]
      omega
    · rw [← List.cons_append, ← List.append_assoc]
      exact .of_not_digit _ (charset_of_ofCode? hcode).2.1
  obtain ⟨⟨set, j⟩, hset, h⟩ := Except.bind_eq_ok_iff.1 h
  obtain ⟨letter, hletter, hcode, rfl⟩ := scanCharset_eq_ok_iff.1 hset
  have hnotDigit := (charset_of_ofCode? hcode).2.1
  by_cases hfixed : cs[digits.length]? = some '!'
  · simp only [if_pos hfixed] at h hletter
    split at h
    · cases h
    cases h
    refine ⟨digits ++ ['!', letter], ?_, by simp, .fixed hdigits hcode, ?_⟩
    · conv_lhs => rw [hcs, drop_of_getElem? hfixed, drop_of_getElem? hletter]
      simp
    · exact .append_left (.of_not_digit ['!'] hnotDigit) (by simp)
  simp only [if_neg hfixed] at h hletter
  split at h
  · next hlines =>
    split at h
    · cases h
    obtain ⟨⟨lines, k⟩, hcount, h⟩ := Except.bind_eq_ok_iff.1 h
    obtain ⟨count, hmore, rfl, hcounts, hnext⟩ := exists_of_scanNumber hcount
    obtain ⟨hdecimal, rfl, rfl⟩ := linesShape_eq_ok_iff.1 h
    refine ⟨digits ++ letter :: '*' :: count, ?_, ?_, .linesBehind hcounts hdigits hcode hdecimal,
      fun c _ _ => hnext⟩
    · conv_lhs => rw [hcs, drop_of_getElem? hletter, drop_of_getElem? hlines, hmore]
      simp
    · simp only [List.length_append, List.length_cons]
      omega
  · cases h
    refine ⟨digits ++ [letter], ?_, by simp, .upTo hdigits hcode, .of_not_digit _ hnotDigit⟩
    conv_lhs => rw [hcs, drop_of_getElem? hletter]
    simp

theorem scanCharset_of_drop {letter : Char} (h : cs.drop i = letter :: rest)
    (hset : Charset.ofCode? letter = some set) : scanCharset cs i = .ok (set, i + 1) :=
  scanCharset_eq_ok_iff.2 ⟨letter, getElem?_of_drop h, hset, rfl⟩

theorem scanLength_fixed (hnumber : scanNumber cs 0 = .ok (n, i)) (hbang : cs[i]? = some '!')
    (hset : scanCharset cs (i + 1) = .ok (set, j)) (hnext : cs[j]? ≠ some '*') :
    scanLength cs = .ok (⟨.fixed, set, n, n, none⟩, j) := by
  simp [scanLength, hnumber, hbang, hset, hnext, bind, Except.bind]

theorem scanLength_upTo (hnumber : scanNumber cs 0 = .ok (n, i)) (hbang : cs[i]? ≠ some '!')
    (hstar : cs[i]? ≠ some '*') (hset : scanCharset cs i = .ok (set, j)) (hnext : cs[j]? ≠ some '*') :
    scanLength cs = .ok (⟨.variable, set, 1, n, none⟩, j) := by
  simp [scanLength, hnumber, hbang, hstar, hset, hnext, bind, Except.bind]

theorem scanLength_linesBefore {lines width k : Nat} (hlines : scanNumber cs 0 = .ok (lines, i))
    (hstar : cs[i]? = some '*') (hdigit : digitAt cs (i + 1) = true) (hwidth : scanNumber cs (i + 1) = .ok (width, j))
    (hbang : cs[j]? ≠ some '!') (hset : scanCharset cs j = .ok (set, k)) (hdecimal : set ≠ .decimal) :
    scanLength cs = .ok (⟨.repeated, set, 1, width, some lines⟩, k) := by
  simp [scanLength, hlines, hstar, hdigit, hwidth, hbang, hset, linesShape, hdecimal, bind, Except.bind]

theorem scanLength_linesBehind {lines width k : Nat} (hwidth : scanNumber cs 0 = .ok (width, i))
    (hbang : cs[i]? ≠ some '!') (hnotStar : cs[i]? ≠ some '*') (hset : scanCharset cs i = .ok (set, j))
    (hstar : cs[j]? = some '*') (hdigit : digitAt cs (j + 1) = true) (hlines : scanNumber cs (j + 1) = .ok (lines, k))
    (hdecimal : set ≠ .decimal) : scanLength cs = .ok (⟨.repeated, set, 1, width, some lines⟩, k) := by
  simp [scanLength, hwidth, hbang, hnotStar, hset, hstar, hdigit, hlines, linesShape, hdecimal, bind, Except.bind]

/-- A component that starts with a number is read off its text, unless a star behind it makes it another one. -/
theorem scanLength_of_spelled (h : shape.Spelled text) (hdate : shape.charset ≠ .date) (hapart : Apart text rest)
    (hrest : rest.head? ≠ some '*') : scanLength (text ++ rest) = .ok (shape, text.length) := by
  generalize hcs : text ++ rest = cs
  have hstart : cs.drop 0 = text ++ rest := hcs.symm
  cases h with
  | @fixed digits n letter set hn hset =>
    simp only [List.append_assoc, List.cons_append, List.nil_append] at hstart
    have hbang := drop_of_drop hstart
    have hletter := drop_succ_of_drop hbang
    have hend := drop_succ_of_drop hletter
    refine (scanLength_fixed (scanNumber_of_drop hstart hn (by simp; decide)) (getElem?_of_drop hbang)
      (scanCharset_of_drop hletter hset) ?_).trans ?_
    · rw [getElem?_of_drop hend]
      exact hrest
    · simp
  | @upTo digits n letter set hn hset =>
    obtain ⟨-, hnotDigit, hstar, hbang⟩ := charset_of_ofCode? hset
    simp only [List.append_assoc, List.cons_append, List.nil_append] at hstart
    have hletter := drop_of_drop hstart
    have hend := drop_succ_of_drop hletter
    have hat := getElem?_of_drop hletter
    refine (scanLength_upTo (scanNumber_of_drop hstart hn (by simpa using hnotDigit)) ?_ ?_
      (scanCharset_of_drop hletter hset) ?_).trans ?_
    · rw [hat]
      simpa using hbang
    · rw [hat]
      simpa using hstar
    · rw [getElem?_of_drop hend]
      exact hrest
    · simp
  | @linesBefore count digits lines width letter set hlines hwidth hset hdecimal =>
    obtain ⟨-, hnotDigit, -, hbang⟩ := charset_of_ofCode? hset
    simp only [List.append_assoc, List.cons_append, List.nil_append] at hstart
    have hstar := drop_of_drop hstart
    have hdigits := drop_succ_of_drop hstar
    have hletter := drop_of_drop hdigits
    refine (scanLength_linesBefore (scanNumber_of_drop hstart hlines (by simp; decide)) (getElem?_of_drop hstar)
      (digitAt_of_drop hdigits hwidth) (scanNumber_of_drop hdigits hwidth (by simpa using hnotDigit)) ?_
      (scanCharset_of_drop hletter hset) hdecimal).trans ?_
    · rw [getElem?_of_drop hletter]
      simpa using hbang
    · simp
      omega
  | @linesBehind count digits lines width letter set hlines hwidth hset hdecimal =>
    obtain ⟨-, hnotDigit, hnotStar, hbang⟩ := charset_of_ofCode? hset
    simp only [List.append_assoc, List.cons_append] at hstart
    have hletter := drop_of_drop hstart
    have hstar := drop_succ_of_drop hletter
    have hcount := drop_succ_of_drop hstar
    have hat := getElem?_of_drop hletter
    have hnext := Apart.not_digit (digits ++ [letter, '*']) (by simpa using hapart) hlines
    refine (scanLength_linesBehind (scanNumber_of_drop hstart hwidth (by simpa using hnotDigit)) ?_ ?_
      (scanCharset_of_drop hletter hset) (getElem?_of_drop hstar) (digitAt_of_drop hcount hlines)
      (scanNumber_of_drop hcount hlines hnext) hdecimal).trans ?_
    · rw [hat]
      simpa using hbang
    · rw [hat]
      simpa using hnotStar
    · simp
      omega
  | longDate => exact absurd rfl hdate
  | shortDate => exact absurd rfl hdate

/-- What is read as a date is spelled like one. -/
theorem begins_of_scanDate (h : scanDate cs = .ok (shape, n)) : Begins shape.Spelled cs n := by
  unfold scanDate at h
  split at h
  · next hlong =>
    cases h
    obtain ⟨rest, rfl⟩ := List.isPrefixOf_iff_prefix.1 hlong
    exact ⟨_, rfl, rfl, .longDate, .of_not_digit "YYYYMMD".toList (by decide)⟩
  split at h
  · next hshort =>
    cases h
    obtain ⟨rest, rfl⟩ := List.isPrefixOf_iff_prefix.1 hshort
    exact ⟨_, rfl, rfl, .shortDate, .of_not_digit "YYMMD".toList (by decide)⟩
  · cases h

theorem begins_of_component {item : Item} {scan : Except Snag (Shape × Nat)}
    (hscan : ∀ shape n, scan = .ok (shape, n) → Begins shape.Spelled cs n)
    (h : (scan.map fun (shape, width) => (Item.component shape, width)) = .ok (item, n)) :
    Begins item.Spelled cs n := by
  obtain ⟨⟨shape, width⟩, hshape, heq⟩ := Except.map_eq_ok_iff.1 h
  cases heq
  obtain ⟨text, hcs, hn, hspelled, hapart⟩ := hscan shape n hshape
  exact ⟨text, hcs, hn, .component hspelled, hapart⟩

/-- What is read as an item is spelled like one. -/
theorem begins_of_scanItem {item : Item} (h : scanItem cs = .ok (item, n)) : Begins item.Spelled cs n := by
  unfold scanItem at h
  split at h
  · cases h
    exact ⟨['['], rfl, rfl, .openGroup, .of_not_digit [] (by decide)⟩
  · cases h
    exact ⟨[']'], rfl, rfl, .closeGroup, .of_not_digit [] (by decide)⟩
  · cases h
    exact ⟨['/'], rfl, rfl, .slash, .of_not_digit [] (by decide)⟩
  · cases h
    exact ⟨['\n'], rfl, rfl, .lineFeed, .of_not_digit [] (by decide)⟩
  · cases h
    exact ⟨['\r', '\n'], rfl, rfl, .carriageReturn, .of_not_digit ['\r'] (by decide)⟩
  · cases h
    exact ⟨['\\', 'n'], rfl, rfl, .escape, .of_not_digit ['\\'] (by decide)⟩
  · exact begins_of_component (fun _ _ => begins_of_scanDate) h
  · split at h
    · exact begins_of_component (fun _ _ => begins_of_scanLength) h
    · cases h
  · cases h

theorem scanItem_of_digit {c : Char} (hc : Text.isDigit c = true) :
    scanItem (c :: rest) = (scanLength (c :: rest)).map fun (shape, width) => (.component shape, width) := by
  unfold scanItem
  split
  case h_8 heq =>
    cases heq
    rw [if_pos hc]
  all_goals
    next heq =>
      cases heq
      try exact absurd hc (by decide)

/-- The text of a component starts with a digit, unless it is that of a date. -/
theorem Shape.Spelled.digit_or_date (h : shape.Spelled text) :
    (shape.charset ≠ .date ∧ ∃ c more, text = c :: more ∧ Text.isDigit c = true) ∨
      ∀ rest, scanItem (text ++ rest) = .ok (.component shape, text.length) := by
  have hnumber : ∀ {digits : List Char} {n : Nat} {letter : Char} {set : Charset} (behind : List Char),
      IsNumber digits n → Charset.ofCode? letter = some set →
      set ≠ .date ∧ ∃ c more, digits ++ behind = c :: more ∧ Text.isDigit c = true := by
    intro digits n letter set behind hn hset
    obtain ⟨c, more, rfl⟩ := List.exists_cons_of_ne_nil hn.ne_nil
    refine ⟨?_, c, more ++ behind, rfl, hn.isDigit c (by simp)⟩
    rintro rfl
    exact (charset_of_ofCode? hset).1 rfl
  cases h with
  | fixed hn hset => exact .inl (hnumber _ hn hset)
  | upTo hn hset => exact .inl (hnumber _ hn hset)
  | linesBefore hlines _ hset => exact .inl (hnumber _ hlines hset)
  | linesBehind _ hwidth hset => exact .inl (hnumber _ hwidth hset)
  | longDate => exact .inr fun _ => rfl
  | shortDate => exact .inr fun _ => rfl

/-- An item is read off its text, unless a star behind it makes it another one. -/
theorem scanItem_of_spelled {item : Item} (h : item.Spelled text) (hapart : Apart text rest)
    (hrest : rest.head? ≠ some '*') : scanItem (text ++ rest) = .ok (item, text.length) := by
  cases h with
  | component h =>
    obtain ⟨hdate, c, more, rfl, hc⟩ | hscan := h.digit_or_date
    · rw [List.cons_append, scanItem_of_digit hc, ← List.cons_append, scanLength_of_spelled h hdate hapart hrest]
      rfl
    · exact hscan rest
  | _ => rfl

theorem Item.Spelled.ne_nil {item : Item} (h : item.Spelled text) : text ≠ [] := by
  cases h with
  | component h => cases h <;> simp
  | _ => simp

end Scan

/-! ## Items of pieces -/

section Pieces

variable {s t : Separator} {shape : Shape} {x y : Item} {items rest : List Item} {parts : List Part}
  {pieces : List Piece} {next : Nat}

/-- The items that are no separators. -/
def Item.IsMark (x : Item) : Prop := ∀ s, x ≠ .separator s

theorem eq_of_separatorItems (h : separatorItems s ++ x :: items = separatorItems t ++ y :: rest) (hx : x.IsMark)
    (hy : y.IsMark) : s = t ∧ x = y ∧ items = rest := by
  cases s <;> cases t <;> simp [separatorItems] at h ⊢ <;>
    first
    | exact h
    | exact absurd h.1 (hx _)
    | exact absurd h.1.symm (hy _)

theorem not_separators {s' : Separator} (h : separatorItems s ++ .separator s' :: items = separatorItems t ++ y :: rest)
    (hs : s ≠ .none) (hy : y.IsMark) : False := by
  cases s <;> cases t <;> simp [separatorItems] at h hs <;>
    exact hy _ h.1.symm

theorem not_alone (h : separatorItems s = separatorItems t ++ y :: rest) (hy : y.IsMark) : False := by
  cases s <;> cases t <;> simp [separatorItems] at h <;>
    exact hy _ h.1.symm

theorem separator_unique (h : .separator s :: items = separatorItems t ++ y :: rest) (hy : y.IsMark) : t = s := by
  cases t <;> simp [separatorItems] at h ⊢
  · exact absurd h.1.symm (hy _)
  · exact h.1.symm
  · exact h.1.symm

/-- A row of parts and the bracket behind it begin with a component or the bracket, and perhaps a separator. -/
theorem exists_head_parts (parts : List Part) (rest : List Item) :
    ∃ t y rest', parts.flatMap Part.items ++ .closeGroup :: rest = separatorItems t ++ y :: rest' ∧
      (y = .closeGroup ∨ ∃ shape, y = .component shape) := by
  cases parts with
  | nil => exact ⟨.none, _, _, rfl, .inl rfl⟩
  | cons first others => exact ⟨first.separator, _, _, by simp [Part.items]; rfl, .inr ⟨first.shape, rfl⟩⟩

/-- A row of pieces begins with a component or a bracket, and perhaps a separator. -/
theorem exists_head_pieces (h : pieces ≠ []) : ∃ t y rest, pieces.flatMap Piece.items = separatorItems t ++ y :: rest ∧
    (y = .openGroup ∨ ∃ shape, y = .component shape) := by
  obtain ⟨piece, others, rfl⟩ := List.exists_cons_of_ne_nil h
  cases piece with
  | single part => exact ⟨part.separator, _, _, by simp [Piece.items, Part.items]; rfl, .inr ⟨part.shape, rfl⟩⟩
  | group first => exact ⟨first.separator, _, _, by simp [Piece.items]; rfl, .inl rfl⟩
  | groupInside => exact ⟨.none, _, _, rfl, .inl rfl⟩

theorem separator_ne_parts : separatorItems s ≠ parts.flatMap Part.items ++ .closeGroup :: rest := by
  obtain ⟨t, y, rest', heq, rfl | ⟨shape, rfl⟩⟩ := exists_head_parts parts rest <;>
    exact fun h => not_alone (h.trans heq) nofun

theorem component_eq_parts_iff :
    separatorItems s ++ .component shape :: items = parts.flatMap Part.items ++ .closeGroup :: rest ↔
      ∃ others, parts = ⟨s, shape⟩ :: others ∧ items = others.flatMap Part.items ++ .closeGroup :: rest := by
  constructor
  · intro h
    cases parts with
    | nil => exact absurd (eq_of_separatorItems (t := .none) h nofun nofun).2.1 nofun
    | cons first others =>
      simp only [List.flatMap_cons, Part.items, List.append_assoc, List.cons_append, List.nil_append] at h
      obtain ⟨rfl, hshape, rfl⟩ := eq_of_separatorItems h nofun nofun
      cases hshape
      exact ⟨others, rfl, rfl⟩
  · rintro ⟨others, rfl, rfl⟩
    simp [Part.items]

theorem closeGroup_eq_parts_iff :
    separatorItems s ++ .closeGroup :: items = parts.flatMap Part.items ++ .closeGroup :: rest ↔
      s = .none ∧ parts = [] ∧ items = rest := by
  constructor
  · intro h
    cases parts with
    | nil =>
      obtain ⟨rfl, -, rfl⟩ := eq_of_separatorItems (t := .none) h nofun nofun
      exact ⟨rfl, rfl, rfl⟩
    | cons first others =>
      simp only [List.flatMap_cons, Part.items, List.append_assoc, List.cons_append] at h
      exact absurd (eq_of_separatorItems h nofun nofun).2.1 nofun
  · rintro ⟨rfl, rfl, rfl⟩
    rfl

theorem openGroup_ne_parts :
    separatorItems s ++ .openGroup :: items ≠ parts.flatMap Part.items ++ .closeGroup :: rest := by
  obtain ⟨t, y, rest', heq, rfl | ⟨shape, rfl⟩⟩ := exists_head_parts parts rest <;>
    exact fun h => absurd (eq_of_separatorItems (h.trans heq) nofun nofun).2.1 nofun

theorem separators_ne_parts (hs : s ≠ .none) {s' : Separator} :
    separatorItems s ++ .separator s' :: items ≠ parts.flatMap Part.items ++ .closeGroup :: rest := by
  obtain ⟨t, y, rest', heq, rfl | ⟨shape, rfl⟩⟩ := exists_head_parts parts rest <;>
    exact fun h => not_separators (h.trans heq) hs nofun

theorem separator_eq_pieces_iff : separatorItems s = pieces.flatMap Piece.items ↔ s = .none ∧ pieces = [] := by
  constructor
  · intro h
    have hpieces : pieces = [] := by
      by_contra hne
      obtain ⟨t, y, rest, heq, rfl | ⟨shape, rfl⟩⟩ := exists_head_pieces hne <;>
        exact not_alone (h.trans heq) nofun
    subst hpieces
    cases s <;> simp [separatorItems] at h ⊢
  · rintro ⟨rfl, rfl⟩
    rfl

theorem component_eq_pieces_iff : separatorItems s ++ .component shape :: items = pieces.flatMap Piece.items ↔
    ∃ others, pieces = .single ⟨s, shape⟩ :: others ∧ items = others.flatMap Piece.items := by
  constructor
  · intro h
    cases pieces with
    | nil => simp at h
    | cons piece others =>
      cases piece with
      | single part =>
        simp only [List.flatMap_cons, Piece.items, Part.items, List.append_assoc, List.cons_append,
          List.nil_append] at h
        obtain ⟨rfl, hshape, rfl⟩ := eq_of_separatorItems h nofun nofun
        cases hshape
        exact ⟨others, rfl, rfl⟩
      | group first =>
        simp only [List.flatMap_cons, Piece.items, List.append_assoc, List.cons_append] at h
        exact absurd (eq_of_separatorItems h nofun nofun).2.1 nofun
      | groupInside => exact absurd (eq_of_separatorItems (t := .none) h nofun nofun).2.1 nofun
  · rintro ⟨others, rfl, rfl⟩
    simp [Piece.items, Part.items]

theorem closeGroup_ne_pieces : separatorItems s ++ .closeGroup :: items ≠ pieces.flatMap Piece.items := by
  intro h
  have hne : pieces ≠ [] := by
    rintro rfl
    simp at h
  obtain ⟨t, y, rest, heq, rfl | ⟨shape, rfl⟩⟩ := exists_head_pieces hne <;>
    exact absurd (eq_of_separatorItems (h.trans heq) nofun nofun).2.1 nofun

theorem separators_ne_pieces (hs : s ≠ .none) {s' : Separator} :
    separatorItems s ++ .separator s' :: items ≠ pieces.flatMap Piece.items := by
  intro h
  have hne : pieces ≠ [] := by
    rintro rfl
    simp at h
  obtain ⟨t, y, rest, heq, rfl | ⟨shape, rfl⟩⟩ := exists_head_pieces hne <;>
    exact not_separators (h.trans heq) hs nofun

/-- A separator in front of parts belongs to the first of them. -/
theorem separator_of_head_part (h : .separator s :: items = parts.flatMap Part.items ++ .closeGroup :: rest)
    (group : Option Nat) : ∃ c ∈ (parts.map (Part.component group)).head?, c.separator = s := by
  cases parts with
  | nil => cases h
  | cons first others =>
    simp only [List.flatMap_cons, Part.items, List.append_assoc, List.cons_append] at h
    exact ⟨_, rfl, separator_unique h nofun⟩

/-- A separator in front of pieces belongs to the first component. -/
theorem separator_of_head_piece (h : .separator s :: items = pieces.flatMap Piece.items) (next : Nat) :
    ∃ c ∈ (numbered next pieces).head?, c.separator = s := by
  cases pieces with
  | nil => cases h
  | cons piece others =>
    cases piece with
    | single part =>
      simp only [List.flatMap_cons, Piece.items, Part.items, List.append_assoc, List.cons_append] at h
      exact ⟨_, rfl, separator_unique h nofun⟩
    | group first inside =>
      simp only [List.flatMap_cons, Piece.items, List.append_assoc, List.cons_append] at h
      exact ⟨_, rfl, separator_unique h nofun⟩
    | groupInside => cases h

/-- A group is a row of parts between brackets; the separator of its first part may stand before them. -/
theorem exists_group_iff {components : List Component} :
    (∃ pieces, separatorItems s ++ .openGroup :: items = pieces.flatMap Piece.items ∧
      components = numbered next pieces) ↔
    ∃ parts pieces, separatorItems s ++ items = parts.flatMap Part.items ++ .closeGroup :: pieces.flatMap Piece.items ∧
      parts ≠ [] ∧ components = parts.map (Part.component (some next)) ++ numbered (next + 1) pieces := by
  constructor
  · rintro ⟨pieces, hitems, rfl⟩
    cases pieces with
    | nil => simp at hitems
    | cons piece others =>
      cases piece with
      | single part =>
        simp only [List.flatMap_cons, Piece.items, Part.items, List.append_assoc, List.cons_append] at hitems
        exact absurd (eq_of_separatorItems hitems nofun nofun).2.1 nofun
      | group first inside =>
        simp only [List.flatMap_cons, Piece.items, List.append_assoc, List.cons_append] at hitems
        obtain ⟨rfl, -, rfl⟩ := eq_of_separatorItems hitems nofun nofun
        exact ⟨first :: inside, others, by simp [Part.items], by simp, rfl⟩
      | groupInside first hseparator inside =>
        rw [List.flatMap_cons, Piece.items, List.cons_append, List.append_assoc] at hitems
        obtain ⟨rfl, -, rfl⟩ := eq_of_separatorItems (t := .none) hitems nofun nofun
        exact ⟨first :: inside, others, rfl, by simp, rfl⟩
  · rintro ⟨parts, pieces, hitems, hparts, rfl⟩
    obtain ⟨⟨t, shape⟩, inside, rfl⟩ := List.exists_cons_of_ne_nil hparts
    by_cases hs : t = s
    · subst hs
      refine ⟨.group ⟨t, shape⟩ inside :: pieces, ?_, rfl⟩
      simp only [List.flatMap_cons, Part.items, List.append_assoc, List.append_cancel_left_eq] at hitems
      simp [Piece.items, hitems]
    · obtain ⟨rfl, ht⟩ : s = .none ∧ t ≠ .none := by
        revert hs hitems
        cases s <;> cases t <;> simp [Part.items, separatorItems]
      refine ⟨.groupInside ⟨t, shape⟩ ht inside :: pieces, ?_, rfl⟩
      simpa [Piece.items, separatorItems] using hitems

end Pieces

/-! ## Drafts -/

namespace Draft

variable {d d' : Draft} {items : List Item} {components : List Component} {position : Nat}

/-- The separator that waits for its component. -/
def waiting (d : Draft) : Separator := (d.pending.map (·.1)).getD .none

/-- What drafts have in common: a line break waits only behind components, and an open group begins among them. -/
structure Valid (d : Draft) : Prop where
  opens : OpensInLine d.components
  pending : ∀ p ∈ d.pending, p.1 ≠ .none ∧ (p.1 = .newline → d.components ≠ [])
  group : ∀ g ∈ d.group, g.first ≤ d.components.length

/-- With some items to come, the draft is a draft of some components. -/
def Completes (d : Draft) (items : List Item) (components : List Component) : Prop :=
  OpensInLine components ∧
  match d.group with
  | none => ∃ pieces, separatorItems d.waiting ++ items = pieces.flatMap Piece.items ∧
      components = d.components ++ numbered d.nextGroup pieces
  | some group => ∃ parts pieces,
      separatorItems d.waiting ++ items = parts.flatMap Part.items ++ .closeGroup :: pieces.flatMap Piece.items ∧
      (d.components.length = group.first → parts ≠ []) ∧
      components = d.components ++ (parts.map (Part.component (some group.number)) ++ numbered d.nextGroup pieces)

theorem waiting_of_some {s : Separator} {n : Nat} (h : d.pending = some (s, n)) : d.waiting = s := by
  simp [waiting, h]

theorem waiting_of_none (h : d.pending = none) : d.waiting = .none := by
  simp [waiting, h]

theorem Valid.waiting_eq_none_iff (hvalid : d.Valid) : d.waiting = .none ↔ d.pending = none := by
  cases hpending : d.pending with
  | none => simp [waiting_of_none hpending]
  | some p =>
    simp only [waiting_of_some hpending, reduceCtorEq, iff_false]
    exact (hvalid.pending p hpending).1

theorem completes_nil_iff (hvalid : d.Valid) : d.Completes [] components ↔ d.finish = .ok components := by
  unfold Completes finish
  cases hgroup : d.group with
  | some group =>
    simp only [List.append_nil, reduceCtorEq, iff_false]
    rintro ⟨-, parts, pieces, hitems, -⟩
    exact separator_ne_parts hitems
  | none =>
    simp only [List.append_nil, separator_eq_pieces_iff, hvalid.waiting_eq_none_iff]
    cases hpending : d.pending with
    | some p => simp
    | none =>
      simp only [Except.ok.injEq]
      constructor
      · rintro ⟨-, pieces, ⟨-, rfl⟩, rfl⟩
        simp [numbered]
      · rintro rfl
        exact ⟨hvalid.opens, [], ⟨trivial, rfl⟩, by simp [numbered]⟩

theorem completes_component_iff {shape : Shape} (hvalid : d.Valid) :
    d.Completes (.component shape :: items) components ↔ (d.addComponent shape).Completes items components := by
  unfold Completes addComponent
  refine and_congr_right fun _ => ?_
  cases hgroup : d.group with
  | none =>
    simp only [component_eq_pieces_iff]
    constructor
    · rintro ⟨_, ⟨others, rfl, rfl⟩, rfl⟩
      exact ⟨others, rfl, by simp [numbered, Part.component, waiting]⟩
    · rintro ⟨others, rfl, rfl⟩
      exact ⟨_, ⟨others, rfl, rfl⟩, by simp [numbered, Part.component, waiting]⟩
  | some group =>
    have hfirst : d.components.length + 1 ≠ group.first := by
      have := hvalid.group group hgroup
      omega
    simp only [component_eq_parts_iff]
    constructor
    · rintro ⟨_, pieces, ⟨others, rfl, rfl⟩, -, rfl⟩
      exact ⟨others, pieces, rfl, by simp [hfirst], by simp [Part.component, waiting]⟩
    · rintro ⟨others, pieces, rfl, -, rfl⟩
      exact ⟨_, pieces, ⟨others, rfl, rfl⟩, by simp, by simp [Part.component, waiting]⟩

/-- A separator may not follow another one. -/
theorem not_completes_of_waiting {s : Separator} (hwaiting : d.waiting ≠ .none) :
    ¬ d.Completes (.separator s :: items) components := by
  unfold Completes
  cases d.group with
  | none =>
    rintro ⟨-, pieces, hitems, -⟩
    exact separators_ne_pieces hwaiting hitems
  | some group =>
    rintro ⟨-, parts, pieces, hitems, -⟩
    exact separators_ne_parts hwaiting hitems

/-- A format may not open with a line break. -/
theorem not_completes_of_leading (hfirst : d.components = []) (hwaiting : d.waiting = .none) :
    ¬ d.Completes (.separator .newline :: items) components := by
  unfold Completes
  rw [hwaiting, hfirst]
  cases d.group with
  | none =>
    rintro ⟨hopens, pieces, hitems, rfl⟩
    obtain ⟨c, hc, hseparator⟩ := separator_of_head_piece hitems d.nextGroup
    exact hopens c hc hseparator
  | some group =>
    rintro ⟨hopens, parts, pieces, hitems, -, rfl⟩
    obtain ⟨c, hc, hseparator⟩ := separator_of_head_part hitems (some group.number)
    exact hopens c (by simp [List.head?_append, Option.mem_def.1 hc]) hseparator

theorem completes_separator_iff {s : Separator} (hvalid : d.Valid) (hs : s ≠ .none) :
    d.Completes (.separator s :: items) components ↔
      ∃ d', d.addSeparator s position = .ok d' ∧ d'.Completes items components := by
  unfold addSeparator
  split
  · next hpending =>
    simp only [reduceCtorEq, false_and, exists_false, iff_false]
    refine not_completes_of_waiting fun hwaiting => ?_
    rw [hvalid.waiting_eq_none_iff.1 hwaiting] at hpending
    cases hpending
  next hpending =>
  rw [Option.not_isSome_iff_eq_none] at hpending
  split
  · next hleading =>
    simp only [Bool.and_eq_true, decide_eq_true_eq, List.isEmpty_iff] at hleading
    simp only [reduceCtorEq, false_and, exists_false, iff_false]
    rw [hleading.1]
    exact not_completes_of_leading hleading.2 (waiting_of_none hpending)
  · have hitems : separatorItems s ++ items = separatorItems d.waiting ++ .separator s :: items := by
      rw [waiting_of_none hpending]
      cases s
      · exact absurd rfl hs
      · rfl
      · rfl
    simp only [Except.ok.injEq, exists_eq_left']
    unfold Completes
    rw [← hitems]
    rfl

theorem completes_openGroup_iff (hnext : d.nextGroup < Text.maxNat16) :
    d.Completes (.openGroup :: items) components ↔
      ∃ d', d.openGroup position = .ok d' ∧ d'.Completes items components := by
  unfold Completes openGroup
  cases hgroup : d.group with
  | some group =>
    simp only [Option.isSome_some, if_true, reduceCtorEq, false_and, exists_false, iff_false]
    rintro ⟨-, parts, pieces, hitems, -⟩
    exact openGroup_ne_parts hitems
  | none =>
    have hmod : (d.nextGroup + 1) % (Text.maxNat16 + 1) = d.nextGroup + 1 := Nat.mod_eq_of_lt (by omega)
    simp only [Option.isSome_none, Bool.false_eq_true, if_false, Except.ok.injEq, exists_eq_left', hmod]
    refine and_congr_right fun _ => ?_
    constructor
    · rintro ⟨pieces, hitems, rfl⟩
      obtain ⟨parts, others, hitems', hparts, hnumbered⟩ := exists_group_iff.1 ⟨pieces, hitems, rfl⟩
      exact ⟨parts, others, hitems', fun _ => hparts, by rw [hnumbered]⟩
    · rintro ⟨parts, others, hitems, hparts, rfl⟩
      obtain ⟨pieces, hitems', hnumbered⟩ := exists_group_iff.2 ⟨parts, others, hitems, hparts trivial, rfl⟩
      exact ⟨pieces, hitems', by rw [hnumbered]⟩

theorem completes_closeGroup_iff (hvalid : d.Valid) :
    d.Completes (.closeGroup :: items) components ↔
      ∃ d', d.closeGroup position = .ok d' ∧ d'.Completes items components := by
  unfold closeGroup
  cases hgroup : d.group with
  | none =>
    unfold Completes
    simp only [hgroup, reduceCtorEq, false_and, exists_false, iff_false]
    rintro ⟨-, pieces, hitems, -⟩
    exact closeGroup_ne_pieces hitems
  | some group =>
    unfold Completes
    simp only [hgroup, closeGroup_eq_parts_iff, hvalid.waiting_eq_none_iff]
    split
    · next hempty =>
      simp only [reduceCtorEq, false_and, exists_false, iff_false]
      rintro ⟨-, parts, pieces, ⟨-, rfl, -⟩, hne, -⟩
      exact hne hempty rfl
    next hempty =>
    cases hpending : d.pending with
    | some p => simp
    | none =>
      simp [waiting, hempty, separatorItems]

/-- An item is one step of the reading and one of what the draft still needs. -/
theorem completes_cons_iff (position : Nat) {item : Item} (hvalid : d.Valid) (hnone : item ≠ .separator .none)
    (hnext : item = .openGroup → d.nextGroup < Text.maxNat16) :
    d.Completes (item :: items) components ↔ ∃ d', d.add position item = .ok d' ∧ d'.Completes items components := by
  cases item with
  | openGroup => exact completes_openGroup_iff (hnext rfl)
  | closeGroup => exact completes_closeGroup_iff hvalid
  | separator s => exact completes_separator_iff hvalid fun h => hnone (congrArg Item.separator h)
  | component shape =>
    rw [completes_component_iff hvalid]
    simp [add]

/-! What adding an item changes, where it is not refused. -/

theorem openGroup_eq_ok_iff : d.openGroup position = .ok d' ↔
    d.group = none ∧ d' = { d with
      group := some ⟨d.nextGroup, position, d.components.length⟩
      nextGroup := (d.nextGroup + 1) % (Text.maxNat16 + 1) } := by
  unfold openGroup
  cases d.group <;> simp [eq_comm]

theorem closeGroup_eq_ok_iff : d.closeGroup position = .ok d' ↔
    ∃ g, d.group = some g ∧ d.components.length ≠ g.first ∧ d.pending = none ∧ d' = { d with group := none } := by
  unfold closeGroup
  cases d.group with
  | none => simp
  | some g =>
    by_cases hempty : d.components.length = g.first
    · simp [hempty]
    · cases d.pending <;> simp [hempty, @eq_comm _ d']

theorem addSeparator_eq_ok_iff {s : Separator} : d.addSeparator s position = .ok d' ↔
    d.pending = none ∧ (s = .newline → d.components ≠ []) ∧ d' = { d with pending := some (s, position) } := by
  unfold addSeparator
  cases d.pending with
  | some p => simp
  | none => cases s <;> cases d.components <;> simp [eq_comm]

theorem Valid.add {item : Item} (hvalid : d.Valid) (hnone : item ≠ .separator .none)
    (h : d.add position item = .ok d') : d'.Valid := by
  cases item with
  | openGroup =>
    obtain ⟨-, rfl⟩ := openGroup_eq_ok_iff.1 h
    refine ⟨hvalid.opens, hvalid.pending, ?_⟩
    rintro g ⟨⟩
    exact le_rfl
  | closeGroup =>
    obtain ⟨g, -, -, -, rfl⟩ := closeGroup_eq_ok_iff.1 h
    exact ⟨hvalid.opens, hvalid.pending, nofun⟩
  | separator s =>
    obtain ⟨-, hleading, rfl⟩ := addSeparator_eq_ok_iff.1 h
    refine ⟨hvalid.opens, ?_, hvalid.group⟩
    rintro p ⟨⟩
    exact ⟨fun hs => hnone (congrArg Item.separator hs), hleading⟩
  | component shape =>
    cases h
    refine ⟨?_, nofun, fun g hg => ?_⟩
    · cases hcomponents : d.components with
      | cons first others =>
        have hopens := hvalid.opens
        rw [hcomponents] at hopens
        simpa [addComponent, OpensInLine, hcomponents] using hopens
      | nil =>
        cases hpending : d.pending with
        | none => simp [addComponent, OpensInLine, hcomponents, hpending]
        | some p =>
          simpa [addComponent, OpensInLine, hcomponents, hpending] using fun hs =>
            (hvalid.pending p hpending).2 hs hcomponents
    · have := hvalid.group g hg
      simp only [addComponent, List.length_append, List.length_cons]
      omega

/-- A group takes a number, and an opening bracket is written for it. -/
theorem nextGroup_add {item : Item} {text : List Char} (hitem : item.Spelled text) (h : d.add position item = .ok d') :
    d'.nextGroup ≤ d.nextGroup + text.count '[' := by
  cases hitem with
  | openGroup =>
    obtain ⟨-, rfl⟩ := openGroup_eq_ok_iff.1 h
    exact Nat.mod_le _ _
  | closeGroup =>
    obtain ⟨g, -, -, -, rfl⟩ := closeGroup_eq_ok_iff.1 h
    exact Nat.le_add_right _ _
  | component =>
    cases h
    exact Nat.le_add_right _ _
  | _ =>
    obtain ⟨-, -, rfl⟩ := addSeparator_eq_ok_iff.1 h
    exact Nat.le_add_right _ _

end Draft

/-! ## Reading a specification -/

section Reading

variable {text rest : List Char} {item : Item} {items : List Item} {components : List Component}

theorem Item.Spelled.ne_none (h : item.Spelled text) : item ≠ .separator .none := by
  cases h <;> nofun

/-- No item starts with a star. -/
theorem Item.Spelled.head?_ne_star (h : item.Spelled text) : (text ++ rest).head? ≠ some '*' := by
  cases h with
  | component h =>
    obtain ⟨-, c, more, rfl, hc⟩ | hscan := h.digit_or_date
    · rintro ⟨⟩
      cases hc
    · intro hstar
      obtain ⟨more, heq⟩ := List.head?_eq_some_iff.1 hstar
      have := hscan rest
      rw [heq] at this
      cases this
  | _ => simp

theorem Spells.head?_ne_star {cs : List Char} (h : Spells items cs) : cs.head? ≠ some '*' := by
  cases h with
  | nil => simp
  | cons hitem => exact hitem.head?_ne_star

theorem Spells.eq_nil_iff {cs : List Char} (h : Spells items cs) : items = [] ↔ cs = [] := by
  cases h with
  | nil => simp
  | cons hitem => simp [hitem.ne_nil]

theorem readItems_append {d : Draft} {position : Nat} (hne : text ≠ [])
    (hscan : scanItem (text ++ rest) = .ok (item, text.length)) :
    readItems d position (text ++ rest) =
      d.add position item >>= fun d' => readItems d' (position + text.length) rest := by
  obtain ⟨c, more, rfl⟩ := List.exists_cons_of_ne_nil hne
  rw [List.cons_append] at hscan ⊢
  rw [readItems, hscan]
  dsimp only
  cases d.add position item with
  | error e => rfl
  | ok d' => simp [bind, Except.bind]

/-- What is read of an item is what its draft reads behind it. -/
theorem readItems_of_add {d d' : Draft} {position : Nat} (hne : text ≠ [])
    (hscan : scanItem (text ++ rest) = .ok (item, text.length)) (hadd : d.add position item = .ok d') :
    readItems d position (text ++ rest) = readItems d' (position + text.length) rest := by
  rw [readItems_append hne hscan, hadd]
  rfl

/-- What is read has items that the draft needs. -/
theorem exists_of_readItems {d : Draft} {position : Nat} {cs : List Char} (hvalid : d.Valid)
    (hcount : d.nextGroup + cs.count '[' ≤ Text.maxNat16) (h : readItems d position cs = .ok components) :
    ∃ items, Spells items cs ∧ d.Completes items components := by
  cases hcs : cs with
  | nil =>
    rw [hcs, readItems] at h
    exact ⟨[], .nil, (Draft.completes_nil_iff hvalid).2 h⟩
  | cons c more =>
    cases hscan : scanItem (c :: more) with
    | error snag =>
      rw [hcs, readItems, hscan] at h
      cases h
    | ok found =>
      obtain ⟨item, n⟩ := found
      rw [← hcs] at hscan ⊢
      obtain ⟨text, heq, rfl, hitem, hapart⟩ := begins_of_scanItem hscan
      rw [heq] at h hscan
      rw [readItems_append hitem.ne_nil hscan] at h
      obtain ⟨d', hadd, h⟩ := Except.bind_eq_ok_iff.1 h
      have hgroups := Draft.nextGroup_add hitem hadd
      have hbrackets := congrArg (List.count '[') heq
      rw [List.count_append] at hbrackets
      have hshorter : (cs.drop text.length).length < cs.length := by
        have hlength := congrArg List.length heq
        have hpos := List.length_pos_of_ne_nil hitem.ne_nil
        rw [List.length_append] at hlength
        omega
      obtain ⟨items, hitems, hcompletes⟩ := exists_of_readItems (hvalid.add hitem.ne_none hadd) (by omega) h
      refine ⟨item :: items, heq ▸ .cons hitem hapart hitems, (Draft.completes_cons_iff _ hvalid hitem.ne_none ?_).2
        ⟨d', hadd, hcompletes⟩⟩
      rintro rfl
      cases hitem
      simp at hbrackets
      omega
termination_by cs.length
decreasing_by exact hshorter

/-- Items that the draft needs are read. -/
theorem readItems_of_spells {d : Draft} {position : Nat} {cs : List Char} (hitems : Spells items cs) (hvalid : d.Valid)
    (hcount : d.nextGroup + cs.count '[' ≤ Text.maxNat16) (h : d.Completes items components) :
    readItems d position cs = .ok components := by
  induction hitems generalizing d position with
  | nil =>
    rw [readItems]
    exact (Draft.completes_nil_iff hvalid).1 h
  | @cons item items text rest hitem hapart hrest ih =>
    rw [List.count_append] at hcount
    have hnext : item = .openGroup → d.nextGroup < Text.maxNat16 := by
      rintro rfl
      cases hitem
      simp at hcount
      omega
    obtain ⟨d', hadd, hcompletes⟩ := (Draft.completes_cons_iff position hvalid hitem.ne_none hnext).1 h
    have hgroups := Draft.nextGroup_add hitem hadd
    rw [readItems_append hitem.ne_nil (scanItem_of_spelled hitem hapart hrest.head?_ne_star)]
    exact Except.bind_eq_ok_iff.2 ⟨d', hadd, ih (hvalid.add hitem.ne_none hadd) (by omega) hcompletes⟩

end Reading

/-- **A specification is compiled exactly when it has a derivation**, and its format has the components of the
derivation in their order. A group has the number of its pair of brackets, as long as 16 bits hold it. -/
theorem compile_eq_ok_iff {spec : String} (hbrackets : spec.toList.count '[' < 65536) {format : Format} :
    compile spec = .ok format ↔
      format.spec = spec ∧ ∃ pieces, Derives pieces spec ∧ format.components = numbered 0 pieces := by
  have hvalid : Draft.Valid {} := ⟨nofun, nofun, nofun⟩
  have hcount : ({} : Draft).nextGroup + spec.toList.count '[' ≤ Text.maxNat16 := by
    rw [Nat.zero_add]
    exact Nat.le_of_lt_succ hbrackets
  unfold compile
  split
  · next hempty =>
    obtain rfl := String.isEmpty_iff.1 hempty
    simp only [reduceCtorEq, false_iff, not_and, not_exists]
    rintro - pieces ⟨hne, hspells, -⟩
    exact absurd (separator_eq_pieces_iff (s := .none).1 (hspells.eq_nil_iff.2 rfl).symm).2 hne
  next hempty =>
  constructor
  · intro h
    obtain ⟨components, hcomponents, rfl⟩ := Except.map_eq_ok_iff.1 h
    obtain ⟨items, hspells, hopens, pieces, hitems, rfl⟩ := exists_of_readItems hvalid hcount hcomponents
    have hitems : items = pieces.flatMap Piece.items := hitems
    refine ⟨rfl, pieces, ⟨?_, hitems ▸ hspells, hopens⟩, rfl⟩
    rintro rfl
    exact hempty (String.isEmpty_iff.2 (String.toList_eq_nil_iff.1 (hspells.eq_nil_iff.1 hitems)))
  · rintro ⟨rfl, pieces, ⟨-, hspells, hopens⟩, hcomponents⟩
    exact Except.map_eq_ok_iff.2 ⟨_, readItems_of_spells hspells hvalid hcount
      ⟨hcomponents ▸ hopens, pieces, rfl, hcomponents⟩, rfl⟩

/-- An account in a group, with its separator inside of the brackets, and behind it a name and an address. -/
theorem compile_eq_ok_iff_account : "[/34x]\\n35x*4".toList.count '[' < 65536 ∧
    compile "[/34x]\\n35x*4" = .ok ⟨"[/34x]\\n35x*4", [
      ⟨.variable, .freeText, 1, 34, none, .slash, some 0⟩, ⟨.repeated, .freeText, 1, 35, some 4, .newline, none⟩]⟩ := by
  have hbrackets : "[/34x]\\n35x*4".toList.count '[' < 65536 := by decide
  have hnumber : IsNumber ['3', '4'] 34 := ⟨by simp [Text.isDigit], rfl, by decide, by decide⟩
  have hwidth : IsNumber ['3', '5'] 35 := ⟨by simp [Text.isDigit], rfl, by decide, by decide⟩
  have hcount : IsNumber ['4'] 4 := ⟨by simp [Text.isDigit], rfl, by decide, by decide⟩
  have haddress : (Shape.mk .repeated .freeText 1 35 (some 4)).Spelled ['3', '5', 'x', '*', '4'] :=
    .linesBehind hcount hwidth rfl (by decide)
  have hspells : Spells [.openGroup, .separator .slash, .component ⟨.variable, .freeText, 1, 34, none⟩, .closeGroup,
      .separator .newline, .component ⟨.repeated, .freeText, 1, 35, some 4⟩]
      ['[', '/', '3', '4', 'x', ']', '\\', 'n', '3', '5', 'x', '*', '4'] :=
    .cons .openGroup (.of_not_digit [] rfl) <|
    .cons .slash (.of_not_digit [] rfl) <|
    .cons (.component (.upTo hnumber rfl)) (.of_not_digit _ rfl) <|
    .cons .closeGroup (.of_not_digit [] rfl) <|
    .cons .escape (.of_not_digit ['\\'] rfl) <|
    .cons (.component haddress) (by simp [Apart]) .nil
  refine ⟨hbrackets, (compile_eq_ok_iff hbrackets).2 ⟨rfl, [
    .groupInside ⟨.slash, ⟨.variable, .freeText, 1, 34, none⟩⟩ (by simp) [],
    .single ⟨.newline, ⟨.repeated, .freeText, 1, 35, some 4⟩⟩], ⟨by simp, hspells, ?_⟩, rfl⟩⟩
  simp [OpensInLine, numbered, Part.component]

end DocumentaryCredit.Format

/-
Texts under the functions that bring them into one form: trimmed text stays as it is when it is trimmed again, text
with one kind of line break when its line breaks are unified again, and text in capitals when it is written in
capitals again. The lines of a text are its pieces between line breaks, and put together again they are the text.
-/
import DocumentaryCredit.Text.Ascii
import DocumentaryCredit.Text.Blank
import DocumentaryCredit.Text.Utf8
import Mathlib

namespace DocumentaryCredit.Text

/-! ## Characters -/

theorem isDigit_iff {c : Char} : isDigit c = true ↔ 48 ≤ c.toNat ∧ c.toNat ≤ 57 := by
  simp [isDigit, Char.le_def, UInt32.le_iff_toNat_le]

theorem isUpper_iff {c : Char} : isUpper c = true ↔ 65 ≤ c.toNat ∧ c.toNat ≤ 90 := by
  simp [isUpper, Char.le_def, UInt32.le_iff_toNat_le]

theorem isLetter_iff {c : Char} :
    isLetter c = true ↔ (65 ≤ c.toNat ∧ c.toNat ≤ 90) ∨ (97 ≤ c.toNat ∧ c.toNat ≤ 122) := by
  rw [isLetter, Bool.or_eq_true, isUpper_iff]
  simp [isLower, Char.le_def, UInt32.le_iff_toNat_le]

theorem isLetter_eq_isAlpha (c : Char) : isLetter c = c.isAlpha := by
  rw [Bool.eq_iff_iff, isLetter_iff]
  simp [Char.isAlpha, Char.isUpper, Char.isLower, UInt32.le_iff_toNat_le]

theorem isLetter_toLower (c : Char) : isLetter c.toLower = isLetter c := by
  rw [isLetter_eq_isAlpha, isLetter_eq_isAlpha, Char.isAlpha_toLower_eq_isAlpha]

theorem isLetter_of_isDigit {c : Char} (h : isDigit c = true) : isLetter c = false := by
  rw [Bool.eq_false_iff]
  intro hletter
  have := isDigit_iff.1 h
  have := isLetter_iff.1 hletter
  omega

/-- No visible character of ASCII is white space. -/
theorem isBlankChar_eq_false {c : Char} (hleast : 33 ≤ c.toNat) (hgreatest : c.toNat ≤ 126) :
    isBlankChar c = false := by
  simp [isBlankChar]
  omega

theorem isBlankChar_of_isDigit {c : Char} (h : isDigit c = true) : isBlankChar c = false := by
  have := isDigit_iff.1 h
  exact isBlankChar_eq_false (by omega) (by omega)

theorem isBlankChar_of_isLetter {c : Char} (h : isLetter c = true) : isBlankChar c = false := by
  have := isLetter_iff.1 h
  exact isBlankChar_eq_false (by omega) (by omega)

theorem isDigit_of_mem_toDigits {n : Nat} {c : Char} (h : c ∈ Nat.toDigits 10 n) : isDigit c = true := by
  have hdigit := Nat.isDigit_of_mem_toDigits (by decide) (by decide) h
  simp only [Char.isDigit, UInt32.le_iff_toNat_le, Bool.and_eq_true, decide_eq_true_eq] at hdigit
  exact isDigit_iff.2 hdigit

theorem digitsValue_toDigits (n : Nat) : digitsValue (Nat.toDigits 10 n) = n := Nat.ofDigitChars_ten_toDigits

/-- Digits and capital letters are their own capitals. -/
theorem toUpper_eq_self {c : Char} (h : c.toNat ≤ 90) : c.toUpper = c := by
  apply Char.toUpper_eq_of_not_isLower
  simp only [Char.isLower, UInt32.le_iff_toNat_le, Char.toNat_val, Char.reduceToNat, Bool.and_eq_true,
    decide_eq_true_eq]
  omega

theorem map_toUpper_eq_self {cs : List Char} (h : ∀ c ∈ cs, c.toNat ≤ 90) : cs.map Char.toUpper = cs :=
  (List.map_congr_left (g := id) fun c hc => toUpper_eq_self (h c hc)).trans (List.map_id cs)

/-! ## Starts and stops -/

theorem stripStart?_eq_some_iff {start s rest : String} :
    stripStart? start s = some rest ↔ s.toList = start.toList ++ rest.toList := by
  unfold stripStart?
  split
  · next h =>
    obtain ⟨cs, hcs⟩ := List.isPrefixOf_iff_prefix.1 h
    rw [← hcs, List.append_cancel_left_eq, ← String.length_toList, List.drop_left, Option.some.injEq, eq_comm]
    constructor
    · rintro rfl
      simp
    · intro h
      rw [h, String.ofList_toList]
  · next h =>
    simp only [reduceCtorEq, false_iff]
    exact fun heq => h (List.isPrefixOf_iff_prefix.2 ⟨_, heq.symm⟩)

theorem stripEnd?_eq_some_iff {stop s rest : String} :
    stripEnd? stop s = some rest ↔ s.toList = rest.toList ++ stop.toList := by
  unfold stripEnd?
  split
  · next h =>
    obtain ⟨cs, hcs⟩ := List.isSuffixOf_iff_suffix.1 h
    have hlength : s.length - stop.length = cs.length := by
      rw [← String.length_toList, ← hcs, ← String.length_toList]
      simp
    rw [hlength, ← hcs, List.append_cancel_right_eq, List.take_left, Option.some.injEq, eq_comm]
    constructor
    · rintro rfl
      simp
    · intro h
      rw [h, String.ofList_toList]
  · next h =>
    simp only [reduceCtorEq, false_iff]
    exact fun heq => h (List.isSuffixOf_iff_suffix.2 ⟨_, heq.symm⟩)

/-! ## White space -/

section Trim

variable {p : Char → Bool} {cs : List Char}

theorem dropWhile_eq_self (h : ∀ c ∈ cs.head?, p c = false) : cs.dropWhile p = cs := by
  cases cs with
  | nil => rfl
  | cons c cs => simp [h c (by simp)]

/-- What starts and ends with other characters has nothing to trim. -/
theorem trimChars_eq_self (hfirst : ∀ c ∈ cs.head?, p c = false) (hlast : ∀ c ∈ cs.getLast?, p c = false) :
    trimChars p cs = cs := by
  unfold trimChars
  rw [dropWhile_eq_self hfirst, dropWhile_eq_self (by simpa using hlast), List.reverse_reverse]

theorem head?_dropWhile_eq_false : ∀ c ∈ (cs.dropWhile p).head?, p c = false := by
  intro c hc
  have h := List.head?_dropWhile_not p cs
  rw [Option.mem_def.1 hc] at h
  exact h

theorem drop_length_takeWhile (p : Char → Bool) (cs : List Char) : cs.drop (cs.takeWhile p).length = cs.dropWhile p := by
  induction cs with
  | nil => rfl
  | cons c cs ih => cases hc : p c <;> simp [hc, ih]

theorem trimChars_head? : ∀ c ∈ (trimChars p cs).head?, p c = false := by
  intro c hc
  have hprefix : trimChars p cs <+: cs.dropWhile p := by
    unfold trimChars
    rw [← List.reverse_suffix, List.reverse_reverse]
    exact List.dropWhile_suffix p
  obtain ⟨behind, hbehind⟩ := hprefix
  have hhead : c ∈ (cs.dropWhile p).head? := by
    rw [← hbehind, List.head?_append, Option.mem_def.1 hc]
    rfl
  exact head?_dropWhile_eq_false c hhead

theorem trimChars_getLast? : ∀ c ∈ (trimChars p cs).getLast?, p c = false := by
  unfold trimChars
  rw [List.getLast?_reverse]
  exact head?_dropWhile_eq_false

theorem trimChars_eq_nil_iff : trimChars p cs = [] ↔ cs.all p = true := by
  unfold trimChars
  rw [List.reverse_eq_nil_iff, List.dropWhile_eq_nil_iff, List.all_eq_true]
  simp only [List.mem_reverse]
  constructor
  · intro h
    have hnil : cs.dropWhile p = [] := by
      refine List.head?_eq_none_iff.1 (Option.eq_none_iff_forall_not_mem.2 fun c hc => ?_)
      have hp := h c (List.mem_of_mem_head? hc)
      rw [head?_dropWhile_eq_false c hc] at hp
      cases hp
    exact List.dropWhile_eq_nil_iff.1 hnil
  · exact fun h c hc => h c ((List.dropWhile_suffix p).subset hc)

theorem mem_of_mem_trimChars {c : Char} (h : c ∈ trimChars p cs) : c ∈ cs := by
  unfold trimChars at h
  exact (List.dropWhile_suffix p).subset (List.mem_reverse.1 ((List.dropWhile_suffix p).subset (List.mem_reverse.1 h)))

/-- Trimming leaves the run of characters that a text starts with, when none of them is trimmed. -/
theorem takeWhile_trimChars {q : Char → Bool} (hfirst : ∀ c ∈ cs.head?, p c = false)
    (hq : ∀ c, p c = true → q c = false) : (trimChars p cs).takeWhile q = cs.takeWhile q := by
  have hcs : cs = trimChars p cs ++ (cs.reverse.takeWhile p).reverse := by
    unfold trimChars
    rw [dropWhile_eq_self hfirst, ← List.reverse_append, List.takeWhile_append_dropWhile, List.reverse_reverse]
  have hback : ((cs.reverse.takeWhile p).reverse).takeWhile q = [] := by
    rw [List.takeWhile_eq_nil_iff]
    intro hpos
    have hmem := List.mem_reverse.1 (List.getElem_mem hpos)
    simpa using hq _ (List.mem_takeWhile_imp hmem)
  conv_rhs => rw [hcs, List.takeWhile_append, hback, List.append_nil]
  split
  · next hlength => exact (List.takeWhile_prefix q).eq_of_length hlength
  · rfl

/-- What is written for trimmed characters is trimmed, when it is no more blank than they are. -/
theorem trimChars_map_trimChars {f : Char → Char} (hf : ∀ c, p (f c) = p c) :
    trimChars p ((trimChars p cs).map f) = (trimChars p cs).map f := by
  refine trimChars_eq_self (fun c hc => ?_) (fun c hc => ?_)
  · rw [List.head?_map, Option.mem_def, Option.map_eq_some_iff] at hc
    obtain ⟨d, hd, rfl⟩ := hc
    rw [hf, trimChars_head? d hd]
  · rw [List.getLast?_map, Option.mem_def, Option.map_eq_some_iff] at hc
    obtain ⟨d, hd, rfl⟩ := hc
    rw [hf, trimChars_getLast? d hd]

theorem length_trimChars_le : (trimChars p cs).length ≤ cs.length := by
  have hfront := (List.dropWhile_suffix (l := cs) p).length_le
  have hback := (List.dropWhile_suffix (l := (cs.dropWhile p).reverse) p).length_le
  rw [List.length_reverse] at hback
  rw [trimChars, List.length_reverse]
  exact hback.trans hfront

theorem trim_trim (s : String) : trim (trim s) = trim s := by
  rw [trim, trim, String.toList_ofList, trimChars_eq_self trimChars_head? trimChars_getLast?]

/-- What stands in front of a trimmed text stays, if none of it is white space. -/
theorem trim_append {front s : String} (hne : front ≠ "") (hfront : ∀ c ∈ front.toList, isBlankChar c = false)
    (hs : trim s = s) : trim (front ++ s) = front ++ s := by
  have hchars : front.toList ≠ [] := fun h => hne (String.toList_eq_nil_iff.1 h)
  rw [← String.toList_inj, trim, String.toList_ofList, String.toList_append]
  refine trimChars_eq_self (fun c hc => ?_) fun c hc => ?_
  · rw [List.head?_append_of_ne_nil _ hchars] at hc
    exact hfront c (List.mem_of_mem_head? hc)
  · rw [List.getLast?_append] at hc
    cases hlast : s.toList.getLast? with
    | none =>
      rw [hlast, Option.none_or] at hc
      exact hfront c (List.mem_of_mem_getLast? hc)
    | some d =>
      rw [hlast, Option.some_or] at hc
      cases hc
      rw [← hs, trim, String.toList_ofList] at hlast
      exact trimChars_getLast? c hlast

end Trim

/-! ## Capitals -/

/-- Neither a small letter nor its capital is white space. -/
theorem isBlankChar_toUpper (c : Char) : isBlankChar c.toUpper = isBlankChar c := by
  by_cases h : c.isLower = true
  · have hupper : c.toUpper.isUpper = true := by
      rw [Char.isUpper_toUpper_eq_isAlpha, Char.isAlpha, h, Bool.or_true]
    simp only [Char.isLower, Char.isUpper, UInt32.le_iff_toNat_le, Char.toNat_val, Char.reduceToNat,
      Bool.and_eq_true, decide_eq_true_eq] at h hupper
    rw [isBlankChar_eq_false (c := c) (by omega) (by omega), isBlankChar_eq_false (by omega) (by omega)]
  · rw [Char.toUpper_eq_of_not_isLower h]

theorem trim_asciiUpper_trim (s : String) : trim (asciiUpper (trim s)) = asciiUpper (trim s) := by
  simp only [trim, asciiUpper, String.toList_ofList, trimChars_map_trimChars isBlankChar_toUpper]

theorem asciiUpper_asciiUpper (s : String) : asciiUpper (asciiUpper s) = asciiUpper s := by
  simp [asciiUpper, Function.comp_def]

theorem asciiUpper_asciiLower (s : String) : asciiUpper (asciiLower s) = asciiUpper s := by
  simp [asciiUpper, asciiLower, Function.comp_def]

theorem asciiLower_asciiUpper (s : String) : asciiLower (asciiUpper s) = asciiLower s := by
  simp [asciiUpper, asciiLower, Function.comp_def]

theorem equalIgnoringCase_iff {a b : String} : equalIgnoringCase a b = true ↔ asciiUpper a = asciiUpper b := by
  rw [equalIgnoringCase, beq_iff_eq]
  constructor
  · intro h
    rw [← asciiUpper_asciiLower a, h, asciiUpper_asciiLower]
  · intro h
    rw [← asciiLower_asciiUpper a, h, asciiLower_asciiUpper]

/-- Texts in capitals that are equal but for case are equal. -/
theorem eq_of_equalIgnoringCase {a b : String} (ha : asciiUpper a = a) (hb : asciiUpper b = b)
    (h : equalIgnoringCase a b = true) : a = b := by
  rwa [equalIgnoringCase_iff, ha, hb] at h

/-! ## Line breaks -/

/-- The characters with CR LF for each line feed. -/
def wireChars (cs : List Char) : List Char := cs.flatMap fun c => if c = '\n' then ['\r', '\n'] else [c]

@[simp] theorem wireChars_append (front back : List Char) :
    wireChars (front ++ back) = wireChars front ++ wireChars back :=
  List.flatMap_append

@[simp] theorem wireChars_cons (c : Char) (cs : List Char) :
    wireChars (c :: cs) = (if c = '\n' then ['\r', '\n'] else [c]) ++ wireChars cs :=
  List.flatMap_cons

theorem wireChars_eq_self {cs : List Char} (h : '\n' ∉ cs) : wireChars cs = cs := by
  induction cs with
  | nil => rfl
  | cons c cs ih =>
    obtain ⟨hc, hcs⟩ : '\n' ≠ c ∧ '\n' ∉ cs := by simpa using h
    rw [wireChars_cons, if_neg hc.symm, ih hcs]
    rfl

theorem not_mem_unifyLineBreaks (cs : List Char) : '\r' ∉ unifyLineBreaks cs := by
  induction cs using unifyLineBreaks.induct with
  | case1 => simp [unifyLineBreaks]
  | case2 rest ih => simpa [unifyLineBreaks] using ih
  | case3 c rest hne ih =>
    rw [unifyLineBreaks.eq_3 _ _ hne, List.mem_cons, not_or]
    refine ⟨?_, ih⟩
    split
    · decide
    · exact fun h => ‹c ≠ '\r'› h.symm

/-- Line breaks of the wire are unified to those that they were written for. -/
theorem unifyLineBreaks_wireChars {cs : List Char} (h : '\r' ∉ cs) : unifyLineBreaks (wireChars cs) = cs := by
  induction cs with
  | nil => rfl
  | cons c cs ih =>
    obtain ⟨hc, hcs⟩ : '\r' ≠ c ∧ '\r' ∉ cs := by simpa using h
    by_cases hbreak : c = '\n'
    · subst hbreak
      simp [unifyLineBreaks, ih hcs]
    · rw [wireChars_cons, if_neg hbreak, List.singleton_append, unifyLineBreaks.eq_3 _ _ (by simp [hc.symm]), ih hcs,
        if_neg hc.symm]

theorem unifyLineBreaks_eq_self {cs : List Char} (h : '\r' ∉ cs) : unifyLineBreaks cs = cs := by
  induction cs with
  | nil => rfl
  | cons c cs ih =>
    obtain ⟨hc, hcs⟩ : '\r' ≠ c ∧ '\r' ∉ cs := by simpa using h
    rw [unifyLineBreaks.eq_3 _ _ (by simp [hc.symm]), ih hcs, if_neg hc.symm]

/-- Where unified text has no line break, there was none to unify. -/
theorem not_mem_of_unifyLineBreaks {cs : List Char} (h : '\n' ∉ unifyLineBreaks cs) : '\r' ∉ cs := by
  induction cs using unifyLineBreaks.induct with
  | case1 => simp
  | case2 rest ih => simp [unifyLineBreaks] at h
  | case3 c rest hne ih =>
    rw [unifyLineBreaks.eq_3 _ _ hne, List.mem_cons, not_or] at h
    rw [List.mem_cons, not_or]
    refine ⟨?_, ih h.2⟩
    rintro rfl
    simp at h

theorem normalizeLineBreaks_eq_self {s : String} (h : '\r' ∉ s.toList) : normalizeLineBreaks s = s := by
  rw [normalizeLineBreaks, unifyLineBreaks_eq_self h, String.ofList_toList]

theorem normalizeLineBreaks_eq_self_of_not_mem {s : String} (h : '\n' ∉ (normalizeLineBreaks s).toList) :
    normalizeLineBreaks s = s :=
  normalizeLineBreaks_eq_self (not_mem_of_unifyLineBreaks (by simpa [normalizeLineBreaks] using h))

theorem not_mem_normalizeLineBreaks (s : String) : '\r' ∉ (normalizeLineBreaks s).toList := by
  simpa [normalizeLineBreaks] using not_mem_unifyLineBreaks s.toList

theorem isBlank_normalizeLineBreaks (s : String) : isBlank (normalizeLineBreaks s) = isBlank s := by
  have hall : ∀ cs : List Char, (unifyLineBreaks cs).all isBlankChar = cs.all isBlankChar := by
    intro cs
    induction cs using unifyLineBreaks.induct with
    | case1 => rfl
    | case2 rest ih =>
      rw [unifyLineBreaks, List.all_cons, List.all_cons, List.all_cons, ih]
      rfl
    | case3 c rest hne ih =>
      rw [unifyLineBreaks.eq_3 _ _ hne, List.all_cons, List.all_cons, ih]
      split
      · next h => rw [h]; rfl
      · rfl
  simpa [isBlank, normalizeLineBreaks] using hall s.toList

/-! ## Bytes -/

/-- The bytes of a text encode it. -/
theorem ofBytes?_toBytes (s : String) : ofBytes? (toBytes s) = some s :=
  dif_pos s.isValidUTF8

/-- Texts of the same bytes are equal. -/
theorem toBytes_injective : Function.Injective toBytes := by
  intro s t h
  exact Option.some.inj ((ofBytes?_toBytes s).symm.trans ((congrArg ofBytes? h).trans (ofBytes?_toBytes t)))

theorem toBytes_eq (s : String) : toBytes s = s.toList.flatMap String.utf8EncodeChar := by
  have hencode : s.toList.utf8Encode = s.toByteArray := String.utf8Encode_toList
  rw [toBytes, String.toUTF8_eq_toByteArray, ← hencode, List.utf8Encode]
  simp

@[simp] theorem toBytes_append (a b : String) : toBytes (a ++ b) = toBytes a ++ toBytes b := by
  simp [toBytes_eq]

theorem toBytes_intercalate (separator : String) :
    ∀ parts : List String, toBytes (separator.intercalate parts) = (toBytes separator).intercalate (parts.map toBytes)
  | [] => by simp [toBytes_eq]
  | [part] => by simp
  | part :: next :: parts => by
    rw [String.intercalate_cons_cons, toBytes_append, toBytes_append, toBytes_intercalate separator (next :: parts)]
    simp [List.intercalate_cons_cons]

/-- The bytes of a text of ASCII are the numbers of its characters. -/
theorem toBytes_eq_map {s : String} (h : ∀ c ∈ s.toList, c.toNat < 128) :
    toBytes s = s.toList.map fun c => UInt8.ofNat c.toNat := by
  rw [toBytes_eq, List.map_eq_flatMap]
  refine List.flatMap_congr fun c hc => ?_
  rw [String.utf8EncodeChar, Char.toNat_val, if_pos (Nat.le_of_lt_succ (h c hc))]

/-! ## Pieces -/

section Pieces

variable {p : Char → Bool}

theorem splitWhere_eq_splitOnP (p : Char → Bool) (cs : List Char) : splitWhere p cs = cs.splitOnP p := by
  induction cs with
  | nil => rfl
  | cons c cs ih =>
    obtain ⟨piece, pieces, hcs⟩ := List.exists_cons_of_ne_nil (List.splitOnP_ne_nil p cs)
    simp [splitWhere, ih, List.splitOnP_cons_eq_if_modifyHead, hcs]

theorem splitWhere_eq_splitOn (separator : Char) (cs : List Char) :
    splitWhere (· == separator) cs = cs.splitOn separator :=
  splitWhere_eq_splitOnP _ cs

/-- Text without a separator belongs to the first piece of what follows it. -/
theorem splitOnP_append_of_forall {front : List Char} (h : ∀ c ∈ front, p c = false) (rest : List Char) :
    (front ++ rest).splitOnP p = (rest.splitOnP p).modifyHead (front ++ ·) := by
  obtain ⟨piece, pieces, hrest⟩ := List.exists_cons_of_ne_nil (List.splitOnP_ne_nil p rest)
  induction front with
  | nil => simp [hrest]
  | cons d front ih =>
    rw [List.cons_append, List.splitOnP_cons_eq_if_modifyHead, if_neg (by simp [h d]),
      ih fun c hc => h c (by simp [hc]), hrest]
    simp

/-- The first piece starts as the text does. -/
theorem head?_of_splitOnP_eq_cons {c : Char} {cs piece : List Char} {pieces : List (List Char)}
    (h : cs.splitOnP p = piece :: pieces) (hhead : piece.head? = some c) : cs.head? = some c := by
  cases cs with
  | nil =>
    obtain ⟨rfl, -⟩ : [] = piece ∧ [] = pieces := by simpa using h
    simp at hhead
  | cons d cs =>
    obtain ⟨next, more, hnext⟩ := List.exists_cons_of_ne_nil (List.splitOnP_ne_nil p cs)
    rw [List.splitOnP_cons_eq_if_modifyHead, hnext, List.modifyHead_cons] at h
    split at h
    · obtain ⟨rfl, -⟩ := List.cons.inj h
      simp at hhead
    · obtain ⟨rfl, -⟩ := List.cons.inj h
      simpa using hhead

/-- What a piece other than the first starts with stands right behind a separator. -/
theorem exists_getElem?_of_mem_tail_splitOnP {c : Char} : ∀ {cs piece : List Char},
    piece ∈ (cs.splitOnP p).tail → piece.head? = some c →
      ∃ i d, cs[i]? = some d ∧ p d = true ∧ cs[i + 1]? = some c
  | [], piece, hmem, _ => by simp at hmem
  | e :: cs, piece, hmem, hhead => by
    have hmore : piece ∈ (cs.splitOnP p).tail → ∃ i d, (e :: cs)[i]? = some d ∧ p d = true ∧
        (e :: cs)[i + 1]? = some c := fun hmem =>
      have ⟨i, d, hd, hp, hc⟩ := exists_getElem?_of_mem_tail_splitOnP hmem hhead
      ⟨i + 1, d, by simpa using hd, hp, by simpa using hc⟩
    obtain ⟨first, pieces, hcs⟩ := List.exists_cons_of_ne_nil (List.splitOnP_ne_nil p cs)
    rw [List.splitOnP_cons_eq_if_modifyHead] at hmem
    split at hmem
    · next he =>
      rw [List.tail_cons, hcs] at hmem
      rcases List.mem_cons.1 hmem with rfl | hmem
      · refine ⟨0, e, rfl, he, ?_⟩
        rw [Nat.zero_add, List.getElem?_cons_succ, ← List.head?_eq_getElem?]
        exact head?_of_splitOnP_eq_cons hcs hhead
      · exact hmore (by rwa [hcs, List.tail_cons])
    · rw [hcs, List.modifyHead_cons, List.tail_cons] at hmem
      exact hmore (by rwa [hcs, List.tail_cons])

/-- A piece has no character that the text does not have. -/
theorem mem_of_mem_splitOnP {c : Char} : ∀ {cs piece : List Char}, piece ∈ cs.splitOnP p → c ∈ piece → c ∈ cs
  | [], piece, hpiece, hc => by simp_all
  | e :: cs, piece, hpiece, hc => by
    obtain ⟨first, pieces, hcs⟩ := List.exists_cons_of_ne_nil (List.splitOnP_ne_nil p cs)
    have hmore : ∀ piece ∈ first :: pieces, c ∈ piece → c ∈ e :: cs := fun piece hpiece hc =>
      List.mem_cons_of_mem _ (mem_of_mem_splitOnP (hcs ▸ hpiece) hc)
    rw [List.splitOnP_cons_eq_if_modifyHead, hcs] at hpiece
    split at hpiece
    · rcases List.mem_cons.1 hpiece with rfl | hpiece
      · cases hc
      · exact hmore piece hpiece hc
    · rw [List.modifyHead_cons] at hpiece
      rcases List.mem_cons.1 hpiece with rfl | hpiece
      · rcases List.mem_cons.1 hc with rfl | hc
        · simp
        · exact hmore first (by simp) hc
      · exact hmore piece (List.mem_cons_of_mem _ hpiece) hc

/-- A piece has no separator. -/
theorem eq_false_of_mem_splitOnP {cs : List Char} : ∀ piece ∈ cs.splitOnP p, ∀ c ∈ piece, p c = false := by
  induction cs with
  | nil => simp
  | cons c cs ih =>
    obtain ⟨first, pieces, hcs⟩ := List.exists_cons_of_ne_nil (List.splitOnP_ne_nil p cs)
    rw [hcs, List.forall_mem_cons] at ih
    rw [List.splitOnP_cons_eq_if_modifyHead, hcs]
    split
    · exact List.forall_mem_cons.2 ⟨by simp, List.forall_mem_cons.2 ih⟩
    · next hc => exact List.forall_mem_cons.2 ⟨List.forall_mem_cons.2 ⟨by simpa using hc, ih.1⟩, ih.2⟩

/-- Where another character follows every separator, no piece but the first is empty. -/
theorem ne_nil_of_mem_tail_splitOnP : ∀ {cs : List Char},
    (∀ i c, cs[i]? = some c → p c = true → ∃ d, cs[i + 1]? = some d ∧ p d = false) →
      ∀ piece ∈ (cs.splitOnP p).tail, piece ≠ []
  | [], _, piece, hpiece => by simp at hpiece
  | e :: cs, h, piece, hpiece => by
    have ih : ∀ piece ∈ (cs.splitOnP p).tail, piece ≠ [] :=
      ne_nil_of_mem_tail_splitOnP fun i c hc hp => h (i + 1) c hc hp
    obtain ⟨first, pieces, hcs⟩ := List.exists_cons_of_ne_nil (List.splitOnP_ne_nil p cs)
    rw [hcs] at ih
    rw [List.splitOnP_cons_eq_if_modifyHead, hcs] at hpiece
    split at hpiece
    · next he =>
      rw [List.tail_cons] at hpiece
      rcases List.mem_cons.1 hpiece with rfl | hpiece
      · obtain ⟨d, hd, hp⟩ := h 0 e rfl he
        cases cs with
        | nil => simp at hd
        | cons d' more =>
          obtain rfl : d' = d := by simpa using hd
          obtain ⟨next, others, hmore⟩ := List.exists_cons_of_ne_nil (List.splitOnP_ne_nil p more)
          rw [List.splitOnP_cons_eq_if_modifyHead, if_neg (by simp [hp]), hmore, List.modifyHead_cons] at hcs
          simp [← (List.cons.inj hcs).1]
      · exact ih piece hpiece
    · exact ih piece hpiece

end Pieces

/-! ## Lines -/

/-- Where line feeds stand apart from each other and from the ends of a text, no piece between them is empty. -/
theorem ne_nil_of_mem_splitOn {cs : List Char} (hne : cs ≠ [])
    (h : ∀ i, cs[i]? = some '\n' → 0 < i ∧ ∃ c, cs[i + 1]? = some c ∧ c ≠ '\n') :
    ∀ piece ∈ cs.splitOn '\n', piece ≠ [] := by
  -- Behind a line feed in front of the text, all pieces of the text are later ones.
  have hfollowed : ∀ i c, ('\n' :: cs)[i]? = some c → (c == '\n') = true →
      ∃ d, ('\n' :: cs)[i + 1]? = some d ∧ (d == '\n') = false := by
    intro i c hc hbreak
    obtain rfl : c = '\n' := by simpa using hbreak
    cases i with
    | zero =>
      obtain ⟨d, more, rfl⟩ := List.exists_cons_of_ne_nil hne
      refine ⟨d, by simp, ?_⟩
      have hfirst : d ≠ '\n' := fun hd => absurd (h 0 (by simp [hd])).1 (Nat.lt_irrefl 0)
      simpa using hfirst
    | succ i =>
      obtain ⟨-, d, hd, hnot⟩ := h i (by simpa using hc)
      exact ⟨d, by simpa using hd, by simpa using hnot⟩
  intro piece hpiece
  refine ne_nil_of_mem_tail_splitOnP hfollowed piece ?_
  rw [List.splitOn_eq_splitOnP] at hpiece
  simpa [List.splitOnP_cons_eq_if_modifyHead] using hpiece

theorem dropCarriageReturn_eq_self {line : List Char} (h : '\r' ∉ line) : dropCarriageReturn line = line := by
  unfold dropCarriageReturn
  split
  · next rest hrest =>
    have : '\r' ∈ line.reverse := by simp [hrest]
    exact absurd (List.mem_reverse.1 this) h
  · rfl

/-- Where no piece between line feeds is empty, the pieces are the lines. -/
theorem lines_eq_map_splitOn {s : String} (hreturn : '\r' ∉ s.toList)
    (hpieces : ∀ piece ∈ s.toList.splitOn '\n', piece ≠ []) : lines s = (s.toList.splitOn '\n').map String.ofList := by
  have hsplit := splitWhere_eq_splitOn '\n' s.toList
  have hne := List.splitOn_ne_nil '\n' s.toList
  unfold lines
  simp only [hsplit]
  have hended : (s.toList.splitOn '\n').dropLast.map dropCarriageReturn = (s.toList.splitOn '\n').dropLast := by
    refine (List.map_congr_left (g := id) fun line hline => ?_).trans (List.map_id _)
    refine dropCarriageReturn_eq_self fun hmem => hreturn (mem_of_mem_splitOnP (p := (· == '\n')) ?_ hmem)
    rw [← List.splitOn_eq_splitOnP]
    exact List.mem_of_mem_dropLast hline
  have hlast := hpieces _ (List.getLast_mem hne)
  rw [hended, List.getLast?_eq_getLast_of_ne_nil hne, Option.getD_some, if_neg (by simpa using hlast),
    List.dropLast_append_getLast hne]

end DocumentaryCredit.Text

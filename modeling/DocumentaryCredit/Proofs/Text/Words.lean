/-
The words of a text: they have no white space in them and are not empty, those of a text that continues behind a
blank are those of its two parts, and written with single blanks between them they are read again. Letters and
numbers are no white space, and no capital of another character is.
-/
import DocumentaryCredit.Proofs.Text
import DocumentaryCredit.Text.Alphanumeric
import DocumentaryCredit.Text.Uppercase

namespace DocumentaryCredit.Text

/-! ## White space among other characters -/

/-- The code points of white space. -/
def blankCodes : List Nat :=
  [0x9, 0xA, 0xB, 0xC, 0xD, 0x20, 0x85, 0xA0, 0x1680, 0x2000, 0x2001, 0x2002, 0x2003, 0x2004, 0x2005, 0x2006, 0x2007,
    0x2008, 0x2009, 0x200A, 0x2028, 0x2029, 0x202F, 0x205F, 0x3000]

theorem toNat_mem_blankCodes {c : Char} (h : isBlankChar c = true) : c.toNat ∈ blankCodes := by
  simp only [isBlankChar, Bool.or_eq_true, Bool.and_eq_true, decide_eq_true_eq, beq_iff_eq] at h
  simp only [blankCodes, List.mem_cons, List.not_mem_nil, or_false]
  omega

/-- The tables of characters are apart from white space: that of letters and numbers, that of the runs of letters with
their capitals, and that of the capitals of more than one letter. -/
theorem blankCodes_apart : (∀ n ∈ blankCodes, inRanges alphanumericRanges n = false) ∧
    (∀ run ∈ capitalRuns, ∀ code ∈ blankCodes,
      (code : Int) < run.1 + run.2.2.2 ∨ (run.2.1 : Int) + run.2.2.2 < code) ∧
    ∀ entry ∈ capitalSequences, entry.2 ≠ [] ∧ ∀ code ∈ entry.2, code ∉ blankCodes := by decide +kernel

theorem isBlankChar_of_isAlphanumeric {c : Char} (h : isAlphanumeric c = true) : isBlankChar c = false := by
  obtain ⟨hblank, -, -⟩ := blankCodes_apart
  rw [Bool.eq_false_iff]
  intro hc
  rw [isAlphanumeric, hblank _ (toNat_mem_blankCodes hc)] at h
  cases h

/-- A number that is no code point of white space is the number of no white space. -/
theorem isBlankChar_ofNat {n : Nat} (h : n ∉ blankCodes) : isBlankChar (Char.ofNat n) = false := by
  rw [Bool.eq_false_iff]
  intro hc
  have hmem := toNat_mem_blankCodes hc
  by_cases hn : n.isValidChar
  · rw [Char.toNat_ofNat, if_pos hn] at hmem
    exact h hmem
  · rw [Char.toNat_ofNat, if_neg hn] at hmem
    exact absurd hmem (by decide)

/-! ## Capitals -/

/-- No run of letters has a capital that is white space. -/
theorem capitalOf_not_mem_blankCodes {n : Nat} (h : n ∉ blankCodes) : capitalOf n ∉ blankCodes := by
  obtain ⟨-, hruns, -⟩ := blankCodes_apart
  unfold capitalOf
  split
  · next low high step distance hrun =>
    intro hmem
    have hfound := List.find?_some hrun
    simp only [Bool.and_eq_true, decide_eq_true_eq] at hfound
    have := hruns _ (List.mem_of_find?_eq_some hrun) _ hmem
    simp only at this
    have hpos : (0 : Int) ≤ n + distance := by
      by_contra hneg
      rw [Int.toNat_of_nonpos (by omega)] at hmem
      exact absurd hmem (by decide)
    omega
  · exact h

theorem upperChar_ne_nil (c : Char) : upperChar c ≠ [] := by
  obtain ⟨-, -, hsequences⟩ := blankCodes_apart
  unfold upperChar
  split
  · exact List.cons_ne_nil _ _
  split
  · next hfind =>
    rw [ne_eq, List.map_eq_nil_iff]
    exact (hsequences _ (List.mem_of_find?_eq_some hfind)).1
  · exact List.cons_ne_nil _ _

theorem isBlankChar_of_mem_upperChar {c d : Char} (h : isBlankChar c = false) (hd : d ∈ upperChar c) :
    isBlankChar d = false := by
  obtain ⟨-, -, hsequences⟩ := blankCodes_apart
  unfold upperChar at hd
  split at hd
  · rw [List.mem_singleton.1 hd, isBlankChar_toUpper, h]
  split at hd
  · next hfind =>
    obtain ⟨code, hcode, rfl⟩ := List.mem_map.1 hd
    exact isBlankChar_ofNat ((hsequences _ (List.mem_of_find?_eq_some hfind)).2 code hcode)
  · rw [List.mem_singleton.1 hd]
    refine isBlankChar_ofNat (capitalOf_not_mem_blankCodes fun hmem => ?_)
    have hcodes : ∀ code ∈ blankCodes, isBlankChar (Char.ofNat code) = true := by decide
    have := hcodes _ hmem
    rw [Char.ofNat_toNat, h] at this
    cases this

@[simp] theorem upper_append (a b : String) : upper (a ++ b) = upper a ++ upper b := by
  simp [upper]

/-! ## Words -/

/-- A word: characters other than white space, at least one of them. -/
structure IsWord (s : String) : Prop where
  ne_empty : s ≠ ""
  notBlank : ∀ c ∈ s.toList, isBlankChar c = false

instance (s : String) : Decidable (IsWord s) :=
  decidable_of_iff (s ≠ "" ∧ s.toList.all (!isBlankChar ·) = true)
    ⟨fun h => ⟨h.1, by simpa using h.2⟩, fun h => ⟨h.1, by simpa using h.2⟩⟩

theorem words_eq (s : String) :
    words s = ((s.toList.splitOnP isBlankChar).filter (!·.isEmpty)).map String.ofList := by
  rw [words, splitWhere_eq_splitOnP]

theorem words_append_blank (a b : String) : words (a ++ " " ++ b) = words a ++ words b := by
  have hcs : (a ++ " " ++ b).toList = a.toList ++ ' ' :: b.toList := by simp
  simp only [words_eq, hcs, List.splitOnP_append_cons _ _ (show isBlankChar ' ' = true by decide), List.filter_append,
    List.map_append]

theorem IsWord.words_eq {s : String} (h : IsWord s) : words s = [s] := by
  have hne : s.toList.isEmpty = false := by simpa using h.ne_empty
  rw [Text.words_eq, List.splitOnP_eq_singleton h.notBlank, List.filter_singleton, hne]
  simp

theorem isWord_of_mem_words {s w : String} (h : w ∈ words s) : IsWord w := by
  rw [words_eq] at h
  obtain ⟨piece, hpiece, rfl⟩ := List.mem_map.1 h
  obtain ⟨hmem, hne⟩ := List.mem_filter.1 hpiece
  refine ⟨?_, by simpa using eq_false_of_mem_splitOnP piece hmem⟩
  simpa [← String.toList_inj] using hne

theorem IsWord.upper {s : String} (h : IsWord s) : IsWord (upper s) := by
  constructor
  · intro hempty
    obtain ⟨c, cs, hcs⟩ := List.exists_cons_of_ne_nil (mt String.toList_eq_nil_iff.1 h.ne_empty)
    rw [Text.upper, hcs, List.flatMap_cons, String.ofList_eq_empty_iff, List.append_eq_nil_iff] at hempty
    exact upperChar_ne_nil c hempty.1
  · intro d hd
    rw [Text.upper, String.toList_ofList] at hd
    obtain ⟨c, hc, hd⟩ := List.mem_flatMap.1 hd
    exact isBlankChar_of_mem_upperChar (h.notBlank c hc) hd

/-- A word has no character that the text does not have. -/
theorem mem_of_mem_words {s w : String} {c : Char} (h : w ∈ words s) (hc : c ∈ w.toList) : c ∈ s.toList := by
  rw [words_eq] at h
  obtain ⟨piece, hpiece, rfl⟩ := List.mem_map.1 h
  exact mem_of_mem_splitOnP (List.mem_filter.1 hpiece).1 (by simpa using hc)

/-- White space behind a word is no part of it. -/
theorem IsWord.words_append_replicate {s : String} (h : IsWord s) (n : Nat) :
    words (s ++ String.ofList (List.replicate n ' ')) = [s] := by
  cases n with
  | zero => rw [List.replicate_zero, String.ofList_nil, String.append_empty, h.words_eq]
  | succ n =>
    have hblanks : words (String.ofList (List.replicate n ' ')) = [] := by
      refine List.eq_nil_iff_forall_not_mem.2 fun w hw => ?_
      obtain ⟨c, hc⟩ := List.exists_mem_of_ne_nil _ (mt String.toList_eq_nil_iff.1 (isWord_of_mem_words hw).ne_empty)
      have hblank := mem_of_mem_words hw hc
      rw [String.toList_ofList, List.mem_replicate] at hblank
      exact absurd ((isWord_of_mem_words hw).notBlank c hc) (by rw [hblank.2]; decide)
    have hbehind : s ++ String.ofList (List.replicate (n + 1) ' ') =
        s ++ " " ++ String.ofList (List.replicate n ' ') := by
      rw [List.replicate_succ, String.append_assoc, ← String.toList_inj]
      simp
    rw [hbehind, words_append_blank, h.words_eq, hblanks, List.append_nil]

/-! ## Words with blanks between them -/

variable {ws : List String}

/-- Words with blanks between them are read again. -/
theorem words_intercalate (h : ∀ w ∈ ws, IsWord w) : words (" ".intercalate ws) = ws := by
  induction ws with
  | nil => rfl
  | cons w ws ih =>
    have hw := (h w (by simp)).words_eq
    have ih := ih fun w hmem => h w (List.mem_cons_of_mem _ hmem)
    cases ws with
    | nil => rw [String.intercalate_singleton, hw]
    | cons next ws => rw [String.intercalate_cons_cons, words_append_blank, hw, ih, List.singleton_append]

@[simp] theorem words_singleSpaced (s : String) : words (singleSpaced s) = words s :=
  words_intercalate fun _ h => isWord_of_mem_words h

/-- The pieces between the blanks of single-spaced words are the words. -/
theorem splitOn_intercalate (hne : ws ≠ []) (h : ∀ w ∈ ws, IsWord w) : splitOn ' ' (" ".intercalate ws) = ws := by
  have hblank : ∀ piece ∈ ws.map String.toList, ' ' ∉ piece := by
    intro piece hpiece hmem
    obtain ⟨w, hw, rfl⟩ := List.mem_map.1 hpiece
    exact absurd ((h w hw).notBlank ' ' hmem) (by decide)
  have hchars : (" ".intercalate ws).toList = [' '].intercalate (ws.map String.toList) := String.toList_intercalate
  rw [splitOn, splitWhere_eq_splitOn, hchars, List.splitOn_intercalate ' ' hblank (by simpa using hne), List.map_map]
  simp

/-! ## Texts with blanks between them -/

variable {xs ys : List String}

theorem intercalate_eq_empty_iff (h : ∀ x ∈ xs, x ≠ "") : " ".intercalate xs = "" ↔ xs = [] := by
  cases xs with
  | nil => simp
  | cons x xs =>
    have hx := h x (by simp)
    cases xs with
    | nil => simpa using hx
    | cons y ys => simp [hx]

/-- Texts with blanks between them can be put in the place of others that are written alike. -/
theorem intercalate_append_congr {xs' ys' : List String} (hxs : ∀ x ∈ xs, x ≠ "") (hxs' : ∀ x ∈ xs', x ≠ "")
    (hys : ∀ y ∈ ys, y ≠ "") (hys' : ∀ y ∈ ys', y ≠ "") (hx : " ".intercalate xs = " ".intercalate xs')
    (hy : " ".intercalate ys = " ".intercalate ys') : " ".intercalate (xs ++ ys) = " ".intercalate (xs' ++ ys') := by
  have hxnil : xs = [] ↔ xs' = [] := by
    rw [← intercalate_eq_empty_iff hxs, hx, intercalate_eq_empty_iff hxs']
  have hynil : ys = [] ↔ ys' = [] := by
    rw [← intercalate_eq_empty_iff hys, hy, intercalate_eq_empty_iff hys']
  by_cases hxe : xs = []
  · rw [hxe, hxnil.1 hxe, List.nil_append, List.nil_append, hy]
  by_cases hye : ys = []
  · rw [hye, hynil.1 hye, List.append_nil, List.append_nil, hx]
  rw [String.intercalate_append_of_ne_nil hxe hye, hx, hy,
    String.intercalate_append_of_ne_nil (mt hxnil.2 hxe) (mt hynil.2 hye)]

end DocumentaryCredit.Text

/-
Which members of a group of words are interchangeable. The words of a text stand for themselves unless a group has
them: the first word of a group stands for itself, and another one for the first word of the first group that has it.
The members of a group are compared without their punctuation, and the words of a text, while punctuation counts, only
without the full stops behind them, so that no text has a word that is a member with other punctuation in it. Main
statement: two members that are words of letters and numbers, full stops behind them aside, are interchangeable exactly
when the same word stands for both, which is so at least when no other group has either (`interchangeable_members`).
-/
import DocumentaryCredit.Presentation.Equivalence
import DocumentaryCredit.Proofs.Text.Words
import DocumentaryCredit.Proofs.TextMap

namespace DocumentaryCredit

open Text

/-! ## Words of the normal form -/

/-- The words of the normal form of a text. -/
def normalWords (s : String) (stripPunctuation : Bool) : List String := words (normalizeText s stripPunctuation)

/-- What is left of a character when punctuation does not count. -/
def plainChar (c : Char) : Char := if isAlphanumeric c || isBlankChar c then c else ' '

theorem normalizeText_true (s : String) :
    normalizeText s true = singleSpaced (String.ofList ((upper s).toList.map plainChar)) :=
  rfl

theorem normalWords_true (s : String) :
    normalWords s true = words (String.ofList ((upper s).toList.map plainChar)) := by
  rw [normalWords, normalizeText_true, words_singleSpaced]

theorem normalWords_false (s : String) : normalWords s false = words (upper s) := words_singleSpaced _

/-- The normal form is its words with single blanks between them. -/
theorem intercalate_normalWords (s : String) (strip : Bool) :
    " ".intercalate (normalWords s strip) = normalizeText s strip := by
  rw [normalWords, normalizeText, words_singleSpaced, singleSpaced]

theorem isWord_of_mem_normalWords {s w : String} {strip : Bool} (h : w ∈ normalWords s strip) : IsWord w :=
  isWord_of_mem_words h

theorem normalWords_append_blank (a b : String) (strip : Bool) :
    normalWords (a ++ " " ++ b) strip = normalWords a strip ++ normalWords b strip := by
  have hupper : upper (a ++ " " ++ b) = upper a ++ " " ++ upper b := by
    rw [upper_append, upper_append]
    rfl
  cases strip with
  | false => rw [normalWords_false, hupper, words_append_blank, normalWords_false, normalWords_false]
  | true =>
    have hplain : String.ofList ((upper a ++ " " ++ upper b).toList.map plainChar) =
        String.ofList ((upper a).toList.map plainChar) ++ " " ++ String.ofList ((upper b).toList.map plainChar) := by
      simp only [String.toList_append, List.map_append, String.ofList_append]
      rfl
    rw [normalWords_true, hupper, hplain, words_append_blank, normalWords_true, normalWords_true]

/-- Without punctuation the words are of letters and numbers. -/
theorem isAlphanumeric_of_mem_normalWords {s w : String} (h : w ∈ normalWords s true) :
    ∀ c ∈ w.toList, isAlphanumeric c = true := by
  intro c hc
  have hblank := (isWord_of_mem_normalWords h).notBlank c hc
  rw [normalWords_true] at h
  have hmem := mem_of_mem_words h hc
  rw [String.toList_ofList] at hmem
  obtain ⟨d, -, rfl⟩ := List.mem_map.1 hmem
  unfold plainChar at hblank ⊢
  split
  · next hd =>
    rw [if_pos hd] at hblank
    simpa [hblank] using hd
  · next hd =>
    rw [if_neg hd] at hblank
    exact absurd hblank (by decide)

namespace Equivalence

variable {e : Equivalence} {group : List String} {m m' w v : String}

/-! ## Bare words -/

theorem toList_eq_bareWord_append (w : String) :
    ∃ stops, w.toList = (bareWord w).toList ++ List.replicate stops '.' := by
  have hback : w.toList.rtakeWhile (· == '.') = List.replicate (w.toList.rtakeWhile (· == '.')).length '.' :=
    List.eq_replicate_iff.2 ⟨rfl, fun c hc => by simpa using List.mem_rtakeWhile_imp hc⟩
  refine ⟨(w.toList.rtakeWhile (· == '.')).length, ?_⟩
  rw [← hback, bareWord, String.toList_ofList]
  exact List.rdropWhile_append_rtakeWhile.symm

/-- A word of letters and numbers has no full stop behind it. -/
theorem bareWord_eq_self (h : ∀ c ∈ w.toList, isAlphanumeric c = true) : bareWord w = w := by
  obtain ⟨stops, hw⟩ := toList_eq_bareWord_append w
  cases stops with
  | zero => rw [← String.toList_inj, hw, List.replicate_zero, List.append_nil]
  | succ stops =>
    have hstop := h '.' (by rw [hw]; simp)
    exact absurd hstop (by decide +kernel)

/-! ## Members -/

/-- The members of a group as they are compared: those in which nothing but punctuation stands are left out. -/
def normalMembers (group : List String) : List String := (group.map (normalizeText · true)).filter (!·.isEmpty)

theorem mem_normalMembers : v ∈ normalMembers group ↔ v ≠ "" ∧ ∃ m ∈ group, normalizeText m true = v := by
  rw [normalMembers, List.mem_filter, List.mem_map, and_comm]
  simp

theorem ne_empty_of_mem_normalMembers (h : v ∈ normalMembers group) : v ≠ "" := (mem_normalMembers.1 h).1

/-- A member that is compared as one word is one of letters and numbers. -/
theorem isAlphanumeric_of_mem_normalMembers (h : v ∈ normalMembers group) (hword : IsWord v) :
    ∀ c ∈ v.toList, isAlphanumeric c = true := by
  obtain ⟨-, m, -, rfl⟩ := mem_normalMembers.1 h
  exact isAlphanumeric_of_mem_normalWords (s := m) (by simp [normalWords, hword.words_eq])

/-- A member in capitals, without the full stops behind it. -/
def bareMember (m : String) : String := bareWord (upper m)

theorem toList_upper_eq (m : String) :
    ∃ stops, (upper m).toList = (bareMember m).toList ++ List.replicate stops '.' :=
  toList_eq_bareWord_append _

/-- A member that is a word of letters and numbers, full stops behind it aside. -/
structure IsPlain (m : String) : Prop where
  ne_empty : bareMember m ≠ ""
  alphanumeric : ∀ c ∈ (bareMember m).toList, isAlphanumeric c = true

instance (m : String) : Decidable (IsPlain m) :=
  decidable_of_iff (bareMember m ≠ "" ∧ (bareMember m).toList.all isAlphanumeric = true)
    ⟨fun h => ⟨h.1, by simpa using h.2⟩, fun h => ⟨h.1, by simpa using h.2⟩⟩

namespace IsPlain

theorem isWord (h : IsPlain m) : IsWord (bareMember m) :=
  ⟨h.ne_empty, fun c hc => isBlankChar_of_isAlphanumeric (h.alphanumeric c hc)⟩

theorem isWord_upper (h : IsPlain m) : IsWord (upper m) := by
  obtain ⟨stops, hm⟩ := toList_upper_eq m
  constructor
  · intro hempty
    rw [hempty, eq_comm] at hm
    exact h.ne_empty (String.toList_eq_nil_iff.1 (List.append_eq_nil_iff.1 hm).1)
  · intro c hc
    rw [hm, List.mem_append, List.mem_replicate] at hc
    rcases hc with hc | ⟨-, rfl⟩
    · exact h.isWord.notBlank c hc
    · decide

/-- Without punctuation a plain member is its word without the full stops. -/
theorem normalWords_true (h : IsPlain m) : normalWords m true = [bareMember m] := by
  obtain ⟨stops, hm⟩ := toList_upper_eq m
  have hplain : ((bareMember m).toList).map plainChar = (bareMember m).toList := by
    refine (List.map_congr_left (g := id) fun c hc => ?_).trans (List.map_id _)
    rw [plainChar, h.alphanumeric c hc, Bool.true_or, if_pos rfl, id]
  have hstop : plainChar '.' = ' ' := by decide +kernel
  rw [DocumentaryCredit.normalWords_true, hm, List.map_append, hplain, List.map_replicate, hstop, String.ofList_append,
    String.ofList_toList, h.isWord.words_append_replicate]

theorem map_bareWord (h : IsPlain m) (strip : Bool) : (normalWords m strip).map bareWord = [bareMember m] := by
  cases strip with
  | false => rw [normalWords_false, h.isWord_upper.words_eq, List.map_singleton, bareMember]
  | true => rw [h.normalWords_true, List.map_singleton, bareWord_eq_self h.alphanumeric]

theorem mem_normalMembers (h : IsPlain m) (hm : m ∈ group) : bareMember m ∈ normalMembers group := by
  refine Equivalence.mem_normalMembers.2 ⟨h.ne_empty, m, hm, ?_⟩
  rw [← intercalate_normalWords, h.normalWords_true, String.intercalate_singleton]

end IsPlain

/-- A word of a text that is a member of some group, full stops behind it aside, is plain. -/
theorem isPlain_of_mem_normalMembers (hword : IsWord m) (h : bareMember m ∈ normalMembers group) : IsPlain m := by
  obtain ⟨stops, hm⟩ := toList_upper_eq m
  have hne := ne_empty_of_mem_normalMembers h
  refine ⟨hne, isAlphanumeric_of_mem_normalMembers h ⟨hne, fun c hc => ?_⟩⟩
  exact hword.upper.notBlank c (by rw [hm]; exact List.mem_append_left _ hc)

/-! ## Words that stand for others -/

/-- The word that stands for a word: itself when it comes first in a group, and otherwise the one that comes first
in the first group that has it. -/
def standIn? (e : Equivalence) (w : String) : Option String :=
  if ∃ group ∈ e.groups, (normalMembers group).head? = some w then some w
  else (e.groups.find? fun group => decide (w ∈ normalMembers group)).bind fun group => (normalMembers group).head?

/-- A group puts in its first word for itself, and for those of its words for which nothing stands yet. -/
theorem get?_addGroup (words : TextMap String) (group : List String) (w : String) :
    (addGroup words group).get? w =
      if (normalMembers group).head? = some w then some w
      else (words.get? w).or (if w ∈ normalMembers group then (normalMembers group).head? else none) := by
  unfold addGroup
  split
  · next hnil =>
    have hnil : normalMembers group = [] := hnil
    simp [hnil]
  · next head members hcons =>
    have hcons : normalMembers group = head :: members := hcons
    rw [TextMap.get?_foldl_insertIfNew, TextMap.get?_insert, hcons, List.head?_cons]
    by_cases hw : w = head
    · simp [hw]
    · simp [hw, Ne.symm hw]

theorem get?_foldl_addGroup (groups : List (List String)) (words : TextMap String) (w : String) :
    (groups.foldl addGroup words).get? w =
      if ∃ group ∈ groups, (normalMembers group).head? = some w then some w
      else (words.get? w).or ((groups.find? fun group => decide (w ∈ normalMembers group)).bind fun group =>
        (normalMembers group).head?) := by
  induction groups generalizing words with
  | nil => simp
  | cons group groups ih =>
    rw [List.foldl_cons, ih, get?_addGroup]
    -- What a later group puts in for its first word is put in last.
    by_cases hlater : ∃ group ∈ groups, (normalMembers group).head? = some w
    · simp [hlater]
    by_cases hhead : (normalMembers group).head? = some w
    · simp [hhead]
    have hnone : ¬∃ g ∈ group :: groups, (normalMembers g).head? = some w := by simpa [hhead] using hlater
    rw [if_neg hhead, if_neg hlater, if_neg hnone, Option.or_assoc]
    by_cases hmem : w ∈ normalMembers group
    · obtain ⟨head, members, hcons⟩ := List.exists_cons_of_ne_nil (List.ne_nil_of_mem hmem)
      have hfirst : (normalMembers group).head? = some head := by rw [hcons, List.head?_cons]
      rw [if_pos hmem, List.find?_cons_of_pos (by simpa using hmem), Option.bind_some, hfirst, Option.some_or]
    · rw [if_neg hmem, List.find?_cons_of_neg (by simpa using hmem), Option.none_or]

/-- What is looked up for a word is the word that stands for it. -/
theorem get?_substitutions (e : Equivalence) (w : String) : e.substitutions.get? w = e.standIn? w := by
  rw [substitutions, get?_foldl_addGroup, standIn?]
  rfl

/-- The word that stands for another one is a member of a group that has both. -/
theorem exists_group_of_standIn? (h : e.standIn? w = some v) :
    ∃ group ∈ e.groups, w ∈ normalMembers group ∧ (normalMembers group).head? = some v := by
  unfold standIn? at h
  split at h
  · next hhead =>
    obtain ⟨group, hgroup, hw⟩ := hhead
    cases h
    exact ⟨group, hgroup, List.mem_of_head? hw, hw⟩
  · obtain ⟨group, hfind, hv⟩ := Option.bind_eq_some_iff.1 h
    exact ⟨group, List.mem_of_find?_eq_some hfind, by simpa using List.find?_some hfind, hv⟩

/-- Some word stands for each word of a group. -/
theorem exists_standIn? (hgroup : group ∈ e.groups) (hw : w ∈ normalMembers group) : ∃ v, e.standIn? w = some v := by
  unfold standIn?
  split
  · exact ⟨w, rfl⟩
  · have hsome : (e.groups.find? fun group => decide (w ∈ normalMembers group)).isSome :=
      List.find?_isSome.2 ⟨group, hgroup, by simpa using hw⟩
    obtain ⟨first, hfirst⟩ := Option.isSome_iff_exists.1 hsome
    have hmem : w ∈ normalMembers first := by simpa using List.find?_some hfirst
    obtain ⟨head, members, hcons⟩ := List.exists_cons_of_ne_nil (List.ne_nil_of_mem hmem)
    exact ⟨head, by rw [hfirst, Option.bind_some, hcons, List.head?_cons]⟩

/-- For the words of a group that no other group has, the first of them stands. -/
theorem standIn?_eq_head? (hgroup : group ∈ e.groups) (hw : w ∈ normalMembers group)
    (honly : ∀ other ∈ e.groups, w ∈ normalMembers other → other = group) :
    e.standIn? w = (normalMembers group).head? := by
  obtain ⟨v, hv⟩ := exists_standIn? hgroup hw
  obtain ⟨other, hother, hmem, hhead⟩ := exists_group_of_standIn? hv
  rw [hv, ← honly other hother hmem, hhead]

example : ({ groups := [["MESSRS", "CO"], ["CO", "COMPANY"]] } : Equivalence).standIn? "CO" = some "CO" := by
  decide +kernel

/-! ## Texts in their canonical form -/

/-- What a word of a text is written as. -/
def rendered (e : Equivalence) (w : String) : String := (e.standIn? (bareWord w)).getD w

theorem rendered_ne_empty (h : w ≠ "") : e.rendered w ≠ "" := by
  unfold rendered
  cases hstands : e.standIn? (bareWord w) with
  | none => exact h
  | some v =>
    obtain ⟨group, -, -, hhead⟩ := exists_group_of_standIn? hstands
    exact ne_empty_of_mem_normalMembers (List.mem_of_head? hhead)

/-- In its canonical form a text is its words, each in the form that it is written in. -/
theorem canonical_eq (e : Equivalence) (s : String) :
    e.canonical s = " ".intercalate ((normalWords s e.stripPunctuation).map e.rendered) := by
  have hrendered : (fun word => (e.substitutions.get? (bareWord word)).getD word) = e.rendered :=
    funext fun word => by rw [get?_substitutions, rendered]
  unfold canonical
  simp only [hrendered]
  rw [← intercalate_normalWords]
  by_cases hnil : normalWords s e.stripPunctuation = []
  · -- Nothing is one empty piece, for which no word stands.
    have hempty : e.rendered "" = "" := by
      have hnone : e.standIn? (bareWord "") = none := by
        refine Option.eq_none_iff_forall_ne_some.2 fun v hv => ?_
        obtain ⟨group, -, hmem, -⟩ := exists_group_of_standIn? hv
        exact ne_empty_of_mem_normalMembers hmem rfl
      rw [rendered, hnone, Option.getD_none]
    have hsplit : splitOn ' ' (" ".intercalate []) = [""] := by decide
    rw [hnil, hsplit, List.map_singleton, hempty, List.map_nil, String.intercalate_singleton, String.intercalate_nil]
  · rw [splitOn_intercalate hnil fun w hw => isWord_of_mem_normalWords hw]

theorem ne_empty_of_mem_map_rendered {s : String} {strip : Bool} :
    ∀ v ∈ (normalWords s strip).map e.rendered, v ≠ "" := by
  intro v hv
  obtain ⟨w, hw, rfl⟩ := List.mem_map.1 hv
  exact rendered_ne_empty (isWord_of_mem_normalWords hw).ne_empty

/-- A plain member of a group is written as the word that stands for it. -/
theorem IsPlain.canonical_eq (h : IsPlain m) (hv : e.standIn? (bareMember m) = some v) : e.canonical m = v := by
  obtain ⟨w, hw, hbare⟩ : ∃ w, normalWords m e.stripPunctuation = [w] ∧ bareWord w = bareMember m := by
    simpa using List.map_eq_singleton_iff.1 (h.map_bareWord e.stripPunctuation)
  rw [Equivalence.canonical_eq, hw, List.map_singleton, String.intercalate_singleton, rendered, hbare, hv,
    Option.getD_some]

/-- While punctuation counts, a word that is not plain is written as it is, in capitals. -/
theorem canonical_eq_upper (hstrip : e.stripPunctuation = false) (hword : IsWord m) (hplain : ¬IsPlain m) :
    e.canonical m = upper m := by
  have hnone : e.standIn? (bareMember m) = none := by
    refine Option.eq_none_iff_forall_ne_some.2 fun v hv => ?_
    obtain ⟨group, -, hmem, -⟩ := exists_group_of_standIn? hv
    exact hplain (isPlain_of_mem_normalMembers hword hmem)
  rw [canonical_eq, hstrip, normalWords_false, hword.upper.words_eq, List.map_singleton, String.intercalate_singleton,
    rendered, ← bareMember, hnone, Option.getD_none]

/-! ## Interchangeable words -/

/-- Two texts are interchangeable when, between whatever other words, they are written alike. -/
def Interchangeable (e : Equivalence) (m m' : String) : Prop :=
  ∀ before behind,
    e.canonical (before ++ " " ++ m ++ " " ++ behind) = e.canonical (before ++ " " ++ m' ++ " " ++ behind)

/-- Interchangeable texts are those with one canonical form. -/
theorem interchangeable_iff : e.Interchangeable m m' ↔ e.canonical m = e.canonical m' := by
  have hbetween : ∀ before m behind, e.canonical (before ++ " " ++ m ++ " " ++ behind) =
      " ".intercalate ((normalWords before e.stripPunctuation).map e.rendered ++
        (normalWords m e.stripPunctuation).map e.rendered ++
        (normalWords behind e.stripPunctuation).map e.rendered) := by
    intro before m behind
    rw [canonical_eq, normalWords_append_blank, normalWords_append_blank, List.map_append, List.map_append]
  constructor
  · intro h
    have hempty : ∀ m, e.canonical ("" ++ " " ++ m ++ " " ++ "") = e.canonical m := by
      intro m
      have hwords : normalWords "" e.stripPunctuation = [] := by cases e.stripPunctuation <;> decide
      rw [hbetween, hwords, List.map_nil, List.nil_append, List.append_nil, canonical_eq]
    rw [← hempty m, ← hempty m']
    exact h "" ""
  · intro h before behind
    rw [canonical_eq, canonical_eq] at h
    rw [hbetween, hbetween]
    have hne : ∀ s, ∀ v ∈ (normalWords s e.stripPunctuation).map e.rendered, v ≠ "" :=
      fun s => ne_empty_of_mem_map_rendered
    refine intercalate_append_congr (List.forall_mem_append.2 ⟨hne before, hne m⟩)
      (List.forall_mem_append.2 ⟨hne before, hne m'⟩) (hne behind) (hne behind) ?_ rfl
    exact intercalate_append_congr (hne before) (hne before) (hne m) (hne m') rfl h

theorem interchangeable_comm : e.Interchangeable m m' ↔ e.Interchangeable m' m := by
  rw [interchangeable_iff, interchangeable_iff, eq_comm]

/-! ## Members of one group -/

/-- Plain members are interchangeable when the same word stands for both. -/
theorem interchangeable_iff_standIn? (hgroup : group ∈ e.groups) (hm : m ∈ group) (hm' : m' ∈ group)
    (hplain : IsPlain m) (hplain' : IsPlain m') :
    e.Interchangeable m m' ↔ e.standIn? (bareMember m) = e.standIn? (bareMember m') := by
  obtain ⟨v, hv⟩ := exists_standIn? hgroup (hplain.mem_normalMembers hm)
  obtain ⟨v', hv'⟩ := exists_standIn? hgroup (hplain'.mem_normalMembers hm')
  rw [interchangeable_iff, hplain.canonical_eq hv, hplain'.canonical_eq hv', hv, hv', Option.some.injEq]

/-- While punctuation counts, no member is written as another one that is not plain, unless they are the same word. -/
theorem interchangeable_iff_upper_eq (hgroup : group ∈ e.groups) (hm : m ∈ group) (hword : IsWord m)
    (hword' : IsWord m') (hplain' : ¬IsPlain m') (hstrip : e.stripPunctuation = false) :
    e.Interchangeable m m' ↔ upper m = upper m' := by
  rw [interchangeable_iff, canonical_eq_upper hstrip hword' hplain']
  by_cases hplain : IsPlain m
  · obtain ⟨v, hv⟩ := exists_standIn? hgroup (hplain.mem_normalMembers hm)
    obtain ⟨other, -, -, hhead⟩ := exists_group_of_standIn? hv
    rw [hplain.canonical_eq hv]
    constructor
    · -- A word that stands for others has no punctuation, and the other member has some.
      rintro rfl
      have halpha := isAlphanumeric_of_mem_normalMembers (List.mem_of_head? hhead) hword'.upper
      have hbare : bareMember m' = upper m' := bareWord_eq_self halpha
      exact absurd ⟨hbare ▸ hword'.upper.ne_empty, hbare ▸ halpha⟩ hplain'
    · intro hupper
      have hbare : bareMember m = bareMember m' := by rw [bareMember, hupper, bareMember]
      exact absurd ⟨hbare ▸ hplain.ne_empty, hbare ▸ hplain.alphanumeric⟩ hplain'
  · rw [canonical_eq_upper hstrip hword hplain]

/-- Which members of a group that are one word each are interchangeable. Two words of letters and numbers, full stops
behind them aside, are when the same word stands for both, and it does when no other group has either. Any other two
are, while punctuation counts, only when they are the same word in capitals, and otherwise when the words that are
left of them are written alike. -/
theorem interchangeable_members (e : Equivalence) {group : List String} {m m' : String} (hgroup : group ∈ e.groups)
    (hm : m ∈ group) (hm' : m' ∈ group) (hword : IsWord m) (hword' : IsWord m') :
    (IsPlain m → IsPlain m' →
      (e.Interchangeable m m' ↔ e.standIn? (bareMember m) = e.standIn? (bareMember m')) ∧
      ((∀ other ∈ e.groups, bareMember m ∈ normalMembers other ∨ bareMember m' ∈ normalMembers other → other = group) →
        e.Interchangeable m m')) ∧
    (¬(IsPlain m ∧ IsPlain m') → e.stripPunctuation = false → (e.Interchangeable m m' ↔ upper m = upper m')) ∧
    (e.stripPunctuation = true → (e.Interchangeable m m' ↔
      " ".intercalate ((normalWords m true).map e.rendered) =
        " ".intercalate ((normalWords m' true).map e.rendered))) := by
  refine ⟨fun hplain hplain' => ⟨interchangeable_iff_standIn? hgroup hm hm' hplain hplain', fun honly => ?_⟩, ?_, ?_⟩
  · rw [interchangeable_iff_standIn? hgroup hm hm' hplain hplain',
      standIn?_eq_head? hgroup (hplain.mem_normalMembers hm) fun other hother hmem => honly other hother (.inl hmem),
      standIn?_eq_head? hgroup (hplain'.mem_normalMembers hm') fun other hother hmem => honly other hother (.inr hmem)]
  · intro hplain hstrip
    by_cases hplain' : IsPlain m'
    · have hother : ¬IsPlain m := fun h => hplain ⟨h, hplain'⟩
      rw [interchangeable_comm, interchangeable_iff_upper_eq hgroup hm' hword' hword hother hstrip, eq_comm]
    · exact interchangeable_iff_upper_eq hgroup hm hword hword' hplain' hstrip
  · intro hstrip
    rw [interchangeable_iff, canonical_eq, canonical_eq, hstrip]

/-- Two groups of words for companies, one member with a full stop. -/
def companyWords : Equivalence := { groups := [["CORPORATION", "Corp."], ["LIMITED", "LTD"]] }

theorem interchangeable_members_corporation :
    ["CORPORATION", "Corp."] ∈ companyWords.groups ∧ IsWord "CORPORATION" ∧ IsWord "Corp." ∧
      companyWords.Interchangeable "CORPORATION" "Corp." := by
  have hgroup : ["CORPORATION", "Corp."] ∈ companyWords.groups := by decide
  have hword : IsWord "CORPORATION" := by decide +kernel
  have hword' : IsWord "Corp." := by decide +kernel
  obtain ⟨hplain, -⟩ := interchangeable_members companyWords hgroup (by decide) (by decide) hword hword'
  refine ⟨hgroup, hword, hword', (hplain (by decide +kernel) (by decide +kernel)).2 ?_⟩
  decide +kernel

/-- A group with a member that has a slash in it. -/
def slashedWords : Equivalence := { groups := [["AKTIESELSKAB", "A/S"]] }

theorem not_interchangeable_slashed :
    ["AKTIESELSKAB", "A/S"] ∈ slashedWords.groups ∧ IsWord "AKTIESELSKAB" ∧ IsWord "A/S" ∧
      ¬slashedWords.Interchangeable "AKTIESELSKAB" "A/S" := by
  refine ⟨by decide, by decide +kernel, by decide +kernel, fun h => ?_⟩
  exact absurd (h "NORDISK" "OSLO") (by decide +kernel)

end Equivalence

end DocumentaryCredit

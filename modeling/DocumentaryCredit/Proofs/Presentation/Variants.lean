/-
Which texts count as variants of each other, when every member of a group is compared as one word and no word is in two
groups. Each word of a text is then written as the first word of its group or stays as it is, and what it is written as
is one word again: no two texts are run together by it, and no word that stays is taken for one that was replaced. Main
statement: two texts have one canonical form exactly when they have equally many words and, place by place, the words
are equal or of one group, so that a disagreement is labelled as a variant for nothing but the words of a group, and the
punctuation if that does not count.
-/
import DocumentaryCredit.Proofs.Presentation.Relaxation
import DocumentaryCredit.Proofs.Presentation.WordGroups

namespace DocumentaryCredit

open Text

namespace Equivalence

/-- The groups have single words only, and no word is in two of them. -/
structure Separated (e : Equivalence) : Prop where
  isWord : ∀ group ∈ e.groups, ∀ w ∈ normalMembers group, IsWord w
  eq_of_mem : ∀ group ∈ e.groups, ∀ other ∈ e.groups, ∀ w ∈ normalMembers group, w ∈ normalMembers other → group = other

/-- Some group has both words, full stops behind them aside. -/
def SameGroup (e : Equivalence) (w w' : String) : Prop :=
  ∃ group ∈ e.groups, bareWord w ∈ normalMembers group ∧ bareWord w' ∈ normalMembers group

/-- Two texts have equally many words, and the words at each place are equal or of one group. -/
def SameWording (e : Equivalence) (a b : String) : Prop :=
  List.Forall₂ (fun w w' => w = w' ∨ e.SameGroup w w') (normalWords a e.stripPunctuation)
    (normalWords b e.stripPunctuation)

instance (e : Equivalence) : Decidable e.Separated :=
  decidable_of_iff ((∀ group ∈ e.groups, ∀ w ∈ normalMembers group, IsWord w) ∧
      ∀ group ∈ e.groups, ∀ other ∈ e.groups, ∀ w ∈ normalMembers group, w ∈ normalMembers other → group = other)
    ⟨fun h => ⟨h.1, h.2⟩, fun h => ⟨h.1, h.2⟩⟩

instance (e : Equivalence) (w w' : String) : Decidable (e.SameGroup w w') :=
  inferInstanceAs (Decidable (∃ group ∈ e.groups, bareWord w ∈ normalMembers group ∧ bareWord w' ∈ normalMembers group))

instance (e : Equivalence) (a b : String) : Decidable (e.SameWording a b) :=
  inferInstanceAs (Decidable (List.Forall₂ (fun w w' => w = w' ∨ e.SameGroup w w') _ _))

variable {e : Equivalence} {group : List String} {a b v w w' : String}

/-! ## Words that stand for others -/

namespace Separated

/-- The first word of its group, and no other, stands for a word. -/
theorem standIn?_eq_some_iff (h : e.Separated) : e.standIn? w = some v ↔
    ∃ group ∈ e.groups, w ∈ normalMembers group ∧ (normalMembers group).head? = some v := by
  refine ⟨exists_group_of_standIn?, ?_⟩
  rintro ⟨group, hgroup, hw, hhead⟩
  rw [standIn?_eq_head? hgroup hw fun other hother hmem => h.eq_of_mem other hother group hgroup w hmem hw, hhead]

/-- Words of one group are written alike. -/
theorem rendered_eq_of_sameGroup (h : e.Separated) (hsame : e.SameGroup w w') : e.rendered w = e.rendered w' := by
  obtain ⟨group, hgroup, hw, hw'⟩ := hsame
  obtain ⟨v, hv⟩ := exists_standIn? hgroup hw
  obtain ⟨other, hother, hmem, hhead⟩ := exists_group_of_standIn? hv
  obtain rfl := h.eq_of_mem other hother group hgroup _ hmem hw
  have hv' : e.standIn? (bareWord w') = some v := h.standIn?_eq_some_iff.2 ⟨other, hother, hw', hhead⟩
  rw [rendered, rendered, hv, hv', Option.getD_some, Option.getD_some]

/-- What stands for the words of a group is a word of the group itself. -/
theorem bareWord_mem_of_head? (h : e.Separated) (hgroup : group ∈ e.groups)
    (hhead : (normalMembers group).head? = some v) : bareWord v ∈ normalMembers group := by
  have hmem := List.mem_of_head? hhead
  rwa [bareWord_eq_self (isAlphanumeric_of_mem_normalMembers hmem (h.isWord group hgroup v hmem))]

/-- A word that some other one is written as is of its group. -/
theorem sameGroup_of_standIn? (h : e.Separated) (hstands : e.standIn? (bareWord w) = some v) : e.SameGroup w v := by
  obtain ⟨group, hgroup, hmem, hhead⟩ := exists_group_of_standIn? hstands
  exact ⟨group, hgroup, hmem, h.bareWord_mem_of_head? hgroup hhead⟩

/-- Words are written alike only if they are equal or of one group. -/
theorem rendered_eq_iff (h : e.Separated) : e.rendered w = e.rendered w' ↔ w = w' ∨ e.SameGroup w w' := by
  refine ⟨fun heq => ?_, ?_⟩
  · unfold rendered at heq
    cases hw : e.standIn? (bareWord w) with
    | none =>
      cases hw' : e.standIn? (bareWord w') with
      | none => exact .inl (by simpa [hw, hw'] using heq)
      | some v =>
        obtain rfl : w = v := by simpa [hw, hw'] using heq
        obtain ⟨group, hgroup, hmem', hmem⟩ := h.sameGroup_of_standIn? hw'
        exact .inr ⟨group, hgroup, hmem, hmem'⟩
    | some v =>
      have hgroup := h.sameGroup_of_standIn? hw
      cases hw' : e.standIn? (bareWord w') with
      | none =>
        obtain rfl : v = w' := by simpa [hw, hw'] using heq
        exact .inr hgroup
      | some v' =>
        obtain rfl : v = v' := by simpa [hw, hw'] using heq
        obtain ⟨group, hgroup, hmem, hfirst⟩ := hgroup
        obtain ⟨other, hother, hmem', hfirst'⟩ := h.sameGroup_of_standIn? hw'
        obtain rfl := h.eq_of_mem group hgroup other hother _ hfirst hfirst'
        exact .inr ⟨group, hgroup, hmem, hmem'⟩
  · rintro (rfl | hsame)
    · rfl
    · exact h.rendered_eq_of_sameGroup hsame

/-- What a word is written as is a word. -/
theorem isWord_rendered (h : e.Separated) (hw : IsWord w) : IsWord (e.rendered w) := by
  unfold rendered
  cases hstands : e.standIn? (bareWord w) with
  | none => exact hw
  | some v =>
    obtain ⟨group, hgroup, -, hhead⟩ := exists_group_of_standIn? hstands
    exact h.isWord group hgroup v (List.mem_of_head? hhead)

/-! ## Texts in their canonical form -/

/-- The words of a canonical form are those that the words of the text are written as. -/
theorem words_canonical (h : e.Separated) (s : String) :
    words (e.canonical s) = (normalWords s e.stripPunctuation).map e.rendered := by
  rw [canonical_eq]
  refine words_intercalate fun v hv => ?_
  obtain ⟨w, hw, rfl⟩ := List.mem_map.1 hv
  exact h.isWord_rendered (isWord_of_mem_normalWords hw)

theorem canonical_eq_iff (h : e.Separated) (a b : String) : e.canonical a = e.canonical b ↔ e.SameWording a b := by
  have hwords : e.canonical a = e.canonical b ↔
      (normalWords a e.stripPunctuation).map e.rendered = (normalWords b e.stripPunctuation).map e.rendered := by
    constructor
    · intro heq
      rw [← h.words_canonical, heq, h.words_canonical]
    · intro heq
      rw [Equivalence.canonical_eq, heq, ← Equivalence.canonical_eq]
  rw [hwords, ← List.forall₂_eq_eq_eq, List.forall₂_map_left_iff, List.forall₂_map_right_iff, SameWording]
  simp only [h.rendered_eq_iff]

end Separated

/-! ## Differing texts -/

/-- Texts that differ, punctuation included, though they are worded alike without leaving it out, have two words of one
group at some place. -/
theorem SameWording.exists_sameGroup (h : e.SameWording a b) (hstrip : e.stripPunctuation = false)
    (hne : normalizeText a false ≠ normalizeText b false) :
    ∃ p ∈ (normalWords a false).zip (normalWords b false), p.1 ≠ p.2 ∧ e.SameGroup p.1 p.2 := by
  rw [SameWording, hstrip] at h
  obtain ⟨hlength, halike⟩ := List.forall₂_iff_zip.1 h
  by_contra hnone
  have hequal : normalWords a false = normalWords b false := by
    rw [← List.forall₂_eq_eq_eq]
    refine List.forall₂_iff_zip.2 ⟨hlength, fun {w w'} hmem => ?_⟩
    by_contra hdiffer
    exact hnone ⟨(w, w'), hmem, hdiffer, (halike hmem).resolve_left hdiffer⟩
  exact hne (by rw [← intercalate_normalWords, hequal, intercalate_normalWords])

/-- Differing texts are variants exactly when they are worded alike. -/
theorem Separated.relates_iff (h : e.Separated) (hne : normalizeText a false ≠ normalizeText b false) :
    e.relates a b = true ↔ e.SameWording a b := by
  rw [relates, Bool.and_eq_true, beq_iff_eq, h.canonical_eq_iff, and_iff_right_iff_imp]
  intro hsame
  rw [isSet, Bool.or_eq_true]
  by_cases hstrip : e.stripPunctuation = true
  · exact .inl hstrip
  · obtain ⟨p, -, -, group, hgroup, -⟩ := hsame.exists_sameGroup (by simpa using hstrip) hne
    exact .inr (by simpa using List.ne_nil_of_mem hgroup)

end Equivalence

section Label

variable {e : Equivalence} {tolerance : Option Tolerance} {d : Disagreement}

theorem normalizeText_ne_of_compareTexts {x y : Side} {kind : DisagreementKind} (h : compareTexts x y = some kind) :
    normalizeText x.value false ≠ normalizeText y.value false := by
  unfold compareTexts at h
  split at h
  · cases h
  · next hne => simpa using hne

/-- A disagreement of texts is one of texts that differ, and is labelled when the settings relate them. -/
theorem of_isText_compareSides {x y : Side} (h : compareSides e tolerance x y = some d)
    (htext : d.category.isText = true) :
    normalizeText d.first.value false ≠ normalizeText d.second.value false ∧
      d.isVariant = e.relates d.first.value d.second.value := by
  obtain ⟨rfl, rfl⟩ := sides_of_compareSides h
  unfold compareSides at h
  rw [Disagreement.category] at htext
  cases hcategory : d.first.field.category with
  | amount | date | quantity =>
    rw [hcategory] at htext
    cases htext
  | partyName | goodsDescription | place | reference =>
    rw [hcategory] at h
    obtain ⟨kind, hkind, hd⟩ := Option.map_eq_some_iff.1 h
    exact ⟨normalizeText_ne_of_compareTexts hkind, by rw [← hd]⟩

theorem of_isText_comparePair {x y : Entry} (h : d ∈ comparePair e tolerance x y) (htext : d.category.isText = true) :
    normalizeText d.first.value false ≠ normalizeText d.second.value false ∧
      d.isVariant = e.relates d.first.value d.second.value := by
  rcases List.mem_append.1 h with h | h
  · obtain ⟨field, -, hd⟩ := List.mem_filterMap.1 h
    split at hd
    · exact of_isText_compareSides hd htext
    · cases hd
  · obtain ⟨-, bounds, hbounds, hfirst, -⟩ := exists_of_mem_bounds h
    have hdates : ∀ bounds ∈ dateBounds, bounds.1.category.isText = false := by decide
    rw [Disagreement.category, hfirst, hdates bounds hbounds] at htext
    cases htext

end Label

/-! ## Variants -/

namespace Equivalence

/-- **Variants are texts in the same words**, if each member of a group is compared as one word and no word is in two
groups. Two texts have one canonical form exactly when they have equally many words, and at each place equal ones or
two of one group. A disagreement of the documents of a set is labelled as a variant exactly when it is one of texts that
are so worded; and while punctuation counts, there are then two different words of one group at some place. -/
theorem canonical_eq_iff_of_separated (e : Equivalence) (h : e.Separated) :
    (∀ a b, e.canonical a = e.canonical b ↔ e.SameWording a b) ∧
    ∀ set : DocumentSet, ∀ d ∈ set.compare e,
      (d.isVariant = true ↔ d.category.isText = true ∧ e.SameWording d.first.value d.second.value) ∧
      (d.isVariant = true → e.stripPunctuation = false →
        ∃ p ∈ (normalWords d.first.value false).zip (normalWords d.second.value false),
          p.1 ≠ p.2 ∧ e.SameGroup p.1 p.2) := by
  refine ⟨h.canonical_eq_iff, fun set d hd => ?_⟩
  obtain ⟨p, -, hd⟩ := List.mem_flatMap.1 hd
  have hlabel : d.isVariant = true ↔ d.category.isText = true ∧ e.SameWording d.first.value d.second.value := by
    constructor
    · intro hvariant
      have htext := (of_isVariant_comparePair hd hvariant).2
      obtain ⟨hne, hrelates⟩ := of_isText_comparePair hd htext
      exact ⟨htext, (h.relates_iff hne).1 (hrelates ▸ hvariant)⟩
    · rintro ⟨htext, hsame⟩
      obtain ⟨hne, hrelates⟩ := of_isText_comparePair hd htext
      rw [hrelates]
      exact (h.relates_iff hne).2 hsame
  refine ⟨hlabel, fun hvariant hstrip => ?_⟩
  obtain ⟨htext, hsame⟩ := hlabel.1 hvariant
  exact hsame.exists_sameGroup hstrip (of_isText_comparePair hd htext).1

/-- A credit in favour of a company, and an invoice of a company that abbreviates its name. -/
def abbreviatedCompany : DocumentSet := ⟨"S1", "LC1", [
  ⟨.credit, none, .ofList [("59", "XYZ CORPORATION LTD")]⟩,
  ⟨.commercialInvoice, none, .ofList [("seller", "Xyz Corp. Limited")]⟩]⟩

/-- The abbreviated name is a variant, on account of the words for companies; a name with a word less is none. -/
theorem canonical_eq_iff_of_separated_company :
    companyWords.Separated ∧
      companyWords.canonical "XYZ CORPORATION LTD" = companyWords.canonical "Xyz Corp. Limited" ∧
      companyWords.canonical "XYZ CORPORATION LTD" ≠ companyWords.canonical "Xyz Corp." ∧
      (abbreviatedCompany.compare companyWords).length = 1 ∧
      ∀ d ∈ abbreviatedCompany.compare companyWords, d.isVariant = true ∧
        ∃ p ∈ (normalWords d.first.value false).zip (normalWords d.second.value false),
          p.1 ≠ p.2 ∧ companyWords.SameGroup p.1 p.2 := by
  have hseparated : companyWords.Separated := by decide +kernel
  obtain ⟨hcanonical, hlabels⟩ := canonical_eq_iff_of_separated companyWords hseparated
  have hwordings : ∀ d ∈ abbreviatedCompany.compare companyWords,
      d.category.isText = true ∧ companyWords.SameWording d.first.value d.second.value := by decide +kernel
  refine ⟨hseparated, (hcanonical _ _).2 (by decide +kernel), mt (hcanonical _ _).1 (by decide +kernel),
    by decide +kernel, fun d hd => ?_⟩
  obtain ⟨hlabel, hwords⟩ := hlabels abbreviatedCompany d hd
  have hvariant := hlabel.2 (hwordings d hd)
  exact ⟨hvariant, hwords hvariant rfl⟩

end Equivalence

end DocumentaryCredit

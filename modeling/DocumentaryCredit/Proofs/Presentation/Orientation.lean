/-
Which of two documents is named first. A disagreement can be told from either document; for those that the comparison
finds, whose documents stand at different places of their set and whose fields are of one category, it is judged the
same both ways, and only its wording and the field that it is filed under follow the document named first
(`DocumentSet.judgedAlike_swapped`).
-/
import DocumentaryCredit.Presentation.Report
import DocumentaryCredit.Proofs.Presentation.Reordering
import Mathlib.Data.List.Zip

namespace DocumentaryCredit

/-- Two discrepancies that are the same but for their wording and the field they are filed under. -/
def Discrepancy.SameVerdict (j j' : Discrepancy) : Prop :=
  { j with field := j'.field, description := j'.description } = j'

namespace Disagreement

/-- Both disagreements are gaps of the table, in the same category, or both are judged the same. -/
def JudgedAlike (setId : String) (table : RuleTable) (d d' : Disagreement) : Prop :=
  match d.classify setId table, d'.classify setId table with
  | .ok j, .ok j' => j.SameVerdict j'
  | .error gap, .error gap' => gap.disagreement.category = gap'.disagreement.category
  | _, _ => False

/-- The disagreement is between two documents of a set, on fields of one category. -/
structure IsProper (d : Disagreement) : Prop where
  apart : d.first.document.index ≠ d.second.document.index
  category : d.first.field.category = d.second.field.category

variable {d : Disagreement}

/-! ## What a judgement looks at -/

theorem numbersAgree_swapped (d : Disagreement) : d.swapped.numbersAgree = d.numbersAgree := by
  have hzip : ∀ (same : Decimal × Decimal → Bool), (∀ p, same p.swap = same p) →
      ∀ a b : List Decimal, (b.zip a).all same = (a.zip b).all same := by
    intro same hsame a b
    rw [← List.zip_swap, List.all_map]
    exact congrArg (List.all _) (funext hsame)
  unfold numbersAgree swapped
  dsimp only
  rw [hzip _ fun p => Decimal.sameValue_comm p.2 p.1, Bool.beq_comm]

theorem severity_swapped (h : d.first.field.category = d.second.field.category) (base : Severity) :
    d.swapped.severity base = d.severity base := by
  have hcategory : d.swapped.category = d.category := h.symm
  unfold severity
  rw [hcategory, numbersAgree_swapped]
  rfl

/-- The side that is expected stays the same one: it is the first exactly if it is not the second. -/
theorem firstIsExpected_swapped (h : d.first.document.index ≠ d.second.document.index) :
    d.swapped.firstIsExpected = !d.firstIsExpected := by
  have hindex : decide (d.second.document.index ≤ d.first.document.index) =
      !decide (d.first.document.index ≤ d.second.document.index) := by
    rw [← decide_not]
    exact decide_eq_decide.2 (by omega)
  unfold firstIsExpected swapped
  dsimp only
  rw [hindex]
  cases d.first.document.kind.isCredit <;> cases d.second.document.kind.isCredit <;> rfl

theorem orderedSides_swapped (h : d.first.document.index ≠ d.second.document.index) :
    d.swapped.orderedSides = d.orderedSides := by
  unfold orderedSides swapped
  dsimp only
  rw [beq_false_of_ne h, beq_false_of_ne h.symm]
  by_cases hlt : d.first.document.index < d.second.document.index
  · simp [hlt, Nat.lt_asymm hlt]
  · simp [hlt, show d.second.document.index < d.first.document.index by omega]

theorem identity_swapped (h : d.first.document.index ≠ d.second.document.index) (setId reference : String) :
    d.swapped.identity setId reference = d.identity setId reference := by
  unfold identity
  rw [orderedSides_swapped h]

/-- A proper disagreement is judged the same from either side. -/
theorem IsProper.judgedAlike (h : d.IsProper) (setId : String) (table : RuleTable) :
    d.JudgedAlike setId table d.swapped := by
  have hcategory : d.swapped.category = d.category := h.category.symm
  unfold JudgedAlike classify
  rw [hcategory]
  cases table.get? d.category with
  | none => exact hcategory.symm
  | some rule =>
    dsimp only
    rw [identity_swapped h.apart, severity_swapped h.category, firstIsExpected_swapped h.apart]
    -- The documents are listed in the order of their places, whichever is named first.
    rcases Nat.lt_or_gt_of_ne h.apart with hlt | hlt
    all_goals cases d.firstIsExpected <;> simp [Discrepancy.SameVerdict, swapped, hlt, Nat.lt_asymm hlt]

end Disagreement

/-! ## What the comparison finds -/

theorem isProper_of_mem_comparePair {equivalence : Equivalence} {tolerance : Option Tolerance} {a b : Entry}
    {d : Disagreement} (hne : a.index ≠ b.index) (h : d ∈ comparePair equivalence tolerance a b) : d.IsProper := by
  have hbetween := isBetween_of_mem_comparePair h
  refine ⟨?_, ?_⟩
  · rcases hbetween with ⟨hfirst, hsecond⟩ | ⟨hfirst, hsecond⟩
    · rwa [hfirst, hsecond]
    · rw [hfirst, hsecond]
      exact hne.symm
  · rcases List.mem_append.1 h with h | h
    · rw [fields_eq_of_mem_fieldDisagreements h]
    · obtain ⟨-, bounds, hbounds, hfirst, hsecond⟩ := exists_of_mem_bounds h
      have hdates : ∀ bounds ∈ dateBounds, bounds.1.category = bounds.2.category := by decide
      rw [hfirst, hsecond, hdates bounds hbounds]

theorem DocumentSet.isProper_of_mem_compare {set : DocumentSet} {equivalence : Equivalence} {d : Disagreement}
    (h : d ∈ set.compare equivalence) : d.IsProper := by
  obtain ⟨⟨a, b⟩, hpair, hd⟩ := List.mem_flatMap.1 h
  exact isProper_of_mem_comparePair (mem_pairs_entries_iff.1 hpair).1.ne hd

/-- **Judgements do not depend on which document is named first.** Whatever the table, a disagreement that the
comparison finds and the same one told from the other document are both gaps or both discrepancies, and as
discrepancies they have the same number, article, severity, expected and actual values, recommendation and
documents. -/
theorem DocumentSet.judgedAlike_swapped (set : DocumentSet) (equivalence : Equivalence) (table : RuleTable)
    (setId : String) : ∀ d ∈ set.compare equivalence, d.JudgedAlike setId table d.swapped :=
  fun _ hd => (isProper_of_mem_compare hd).judgedAlike setId table

/-- A date and its bound, which are different fields, change sides. -/
theorem DocumentSet.judgedAlike_swapped_lateInvoice : ∃ d ∈ lateInvoice.compare {}, d.kind = .laterThan ∧
    d.first.field = .issueDate ∧ d.second.field = .expiryDate ∧ d.JudgedAlike "S1" .ucp600 d.swapped := by
  have hmem : ⟨.laterThan, ⟨.issueDate, ⟨1, .commercialInvoice, none⟩, "2024-10-01"⟩,
      ⟨.expiryDate, ⟨0, .credit, none⟩, "240930LONDON"⟩, false⟩ ∈ lateInvoice.compare {} := by decide +kernel
  exact ⟨_, hmem, rfl, rfl, rfl, judgedAlike_swapped lateInvoice {} .ucp600 "S1" _ hmem⟩

end DocumentaryCredit

/-
Settings that let texts count as variants of each other hide nothing: they only put a label on disagreements that are
found without them (`DocumentSet.compare_relaxed`), and all that the label changes in a judgement is its wording and, for
the name of a party, its severity, which becomes less.
-/
import DocumentaryCredit.Presentation.Report
import DocumentaryCredit.Proofs.Presentation.Pairs

namespace DocumentaryCredit

/-- The categories whose values are compared as texts. -/
def Category.isText : Category → Bool
  | .partyName | .goodsDescription | .place | .reference => true
  | .amount | .date | .quantity => false

/-- The disagreement without the label of a variant. -/
def Disagreement.plain (d : Disagreement) : Disagreement := { d with isVariant := false }

/-! ## What is found -/

section Found

variable {equivalence : Equivalence} {tolerance : Option Tolerance} {a b : Entry}

/-- Two sides disagree under any settings as they do without, but for the label. -/
theorem map_plain_compareSides (x y : Side) :
    (compareSides equivalence tolerance x y).map .plain = compareSides {} tolerance x y := by
  unfold compareSides
  cases x.field.category <;> simp only [Option.map_map] <;> rfl

theorem kind_of_compareTexts {x y : Side} {kind : DisagreementKind} (h : compareTexts x y = some kind) :
    kind = .differs := by
  unfold compareTexts at h
  split at h <;> cases h
  rfl

/-- Only a difference of texts is labelled. -/
theorem of_isVariant_compareSides {x y : Side} {d : Disagreement} (h : compareSides equivalence tolerance x y = some d)
    (hvariant : d.isVariant = true) : d.kind = .differs ∧ d.category.isText = true := by
  have hfirst : d.first = x := (sides_of_compareSides h).1
  unfold compareSides at h
  rw [Disagreement.category, hfirst]
  cases hcategory : x.field.category with
  | amount | date | quantity =>
    rw [hcategory] at h
    obtain ⟨kind, -, rfl⟩ := Option.map_eq_some_iff.1 h
    cases hvariant
  | partyName | goodsDescription | place | reference =>
    rw [hcategory] at h
    obtain ⟨kind, hkind, rfl⟩ := Option.map_eq_some_iff.1 h
    exact ⟨kind_of_compareTexts hkind, rfl⟩

theorem map_plain_fieldDisagreements :
    (fieldDisagreements equivalence tolerance a b).map .plain = fieldDisagreements {} tolerance a b := by
  simp only [fieldDisagreements, List.map_filterMap]
  refine List.filterMap_congr fun field _ => ?_
  cases a.side? field with
  | none => rfl
  | some x =>
    cases b.side? field with
    | none => rfl
    | some y => exact map_plain_compareSides x y

theorem map_plain_comparePair :
    (comparePair equivalence tolerance a b).map .plain = comparePair {} tolerance a b := by
  have hdates : ∀ d ∈ boundDisagreements [] (boundedPairs a b ++ boundedPairs b a), d.plain = d := by
    intro d hd
    rw [Disagreement.plain, ← isVariant_of_mem_boundDisagreements hd]
  rw [comparePair, comparePair, List.map_append, map_plain_fieldDisagreements, List.map_congr_left hdates, List.map_id']

theorem of_isVariant_comparePair {d : Disagreement} (h : d ∈ comparePair equivalence tolerance a b)
    (hvariant : d.isVariant = true) : d.kind = .differs ∧ d.category.isText = true := by
  rcases List.mem_append.1 h with h | h
  · obtain ⟨field, -, hd⟩ := List.mem_filterMap.1 h
    split at hd
    · exact of_isVariant_compareSides hd hvariant
    · cases hd
  · rw [isVariant_of_mem_boundDisagreements h] at hvariant
    cases hvariant

end Found

/-! ## How it is judged -/

/-- A discrepancy that is judged as another one is, in other words and, on a party's name, perhaps less severely. -/
structure Discrepancy.Relaxes (j strict : Discrepancy) : Prop where
  same : { j with severity := strict.severity, description := strict.description } = strict
  rank_le : j.severity.rank ≤ strict.severity.rank
  category_eq : j.severity ≠ strict.severity → j.field.category = .partyName

/-- Both disagreements are gaps of the table, or the one is judged as the other is or less severely. -/
def Disagreement.JudgedWithin (setId : String) (table : RuleTable) (d strict : Disagreement) : Prop :=
  match d.classify setId table, strict.classify setId table with
  | .ok j, .ok strict => j.Relaxes strict
  | .error gap, .error strict => gap.disagreement.plain = strict.disagreement
  | _, _ => False

namespace Disagreement

/-- The label makes a disagreement on the name of a party low and changes no other severity. -/
theorem severity_eq (d : Disagreement) (base : Severity) :
    d.severity base = d.plain.severity base ∨ d.severity base = .low ∧ d.category = .partyName := by
  have hkind : d.plain.kind = d.kind := rfl
  have hcategory : d.plain.category = d.category := rfl
  have hnumbers : d.plain.numbersAgree = d.numbersAgree := rfl
  have hvariant : d.plain.isVariant = false := rfl
  unfold severity
  rw [hkind, hcategory, hnumbers, hvariant]
  by_cases hread : d.kind = .unreadable
  · simp [hread]
  · by_cases hparty : d.category = .partyName
    · cases d.isVariant <;> simp [hread, hparty]
    · simp [hparty]

/-- Whatever the table, a labelled disagreement is judged within the severity of the same one without the label. -/
theorem judgedWithin_plain (setId : String) (table : RuleTable) (d : Disagreement) :
    d.JudgedWithin setId table d.plain := by
  have hcategory : d.plain.category = d.category := rfl
  unfold JudgedWithin classify
  rw [hcategory]
  cases table.get? d.category with
  | none => rfl
  | some rule =>
    refine ⟨?_, ?_, fun hne => ?_⟩
    · rfl
    · rcases d.severity_eq rule.severity with heq | ⟨hlow, -⟩
      · exact (congrArg Severity.rank heq).le
      · exact (congrArg Severity.rank hlow).trans_le (Nat.zero_le _)
    · rcases d.severity_eq rule.severity with heq | ⟨-, hparty⟩
      · exact absurd heq hne
      · exact hparty

end Disagreement

namespace DocumentSet

theorem map_plain_compare (set : DocumentSet) (equivalence : Equivalence) :
    (set.compare equivalence).map .plain = set.compare {} := by
  rw [compare, compare, List.map_flatMap]
  exact congrArg (List.flatMap · _) (funext fun p => map_plain_comparePair)

/-- **Relaxed settings hide nothing.** Under any two settings the same disagreements are found, but for the label of a
variant. Only differing texts are labelled, and without settings nothing is. Whatever the table of rules, a disagreement
is judged under relaxed settings as it is without them, and a party's name at most less severely. -/
theorem compare_relaxed (set : DocumentSet) (equivalence equivalence' : Equivalence) (table : RuleTable) :
    (set.compare equivalence).map Disagreement.plain = (set.compare equivalence').map Disagreement.plain ∧
    (∀ d ∈ set.compare equivalence, d.isVariant = true → d.kind = .differs ∧ d.category.isText = true) ∧
    (∀ d ∈ set.compare {}, d.isVariant = false) ∧
    List.Forall₂ (Disagreement.JudgedWithin set.id table) (set.compare equivalence) (set.compare {}) ∧
    ∀ setId (d : Disagreement), d.JudgedWithin setId table d.plain := by
  refine ⟨?_, fun d hd => ?_, fun d hd => ?_, ?_, fun setId d => d.judgedWithin_plain setId table⟩
  · rw [map_plain_compare, map_plain_compare]
  · obtain ⟨p, -, hd⟩ := List.mem_flatMap.1 hd
    exact of_isVariant_comparePair hd
  · rw [← map_plain_compare set {}] at hd
    obtain ⟨d, -, rfl⟩ := List.mem_map.1 hd
    rfl
  · rw [← map_plain_compare set equivalence, List.forall₂_map_right_iff, List.forall₂_same]
    exact fun d _ => d.judgedWithin_plain set.id table

/-- A credit and an invoice that abbreviates the beneficiary. -/
def abbreviated : DocumentSet := ⟨"S1", "LC1", [
  ⟨.credit, none, .ofList [("59", "XYZ CORP")]⟩,
  ⟨.commercialInvoice, none, .ofList [("seller", "XYZ Co.")]⟩]⟩

theorem compare_relaxed_abbreviated :
    (abbreviated.compare { groups := [["CORP", "CO"]] }).map (fun d => (d.kind, d.isVariant, d.severity .high)) =
        [(.differs, true, .low)] ∧
      (abbreviated.compare {}).map (fun d => (d.kind, d.isVariant, d.severity .high)) = [(.differs, false, .high)] ∧
      List.Forall₂ (Disagreement.JudgedWithin "S1" .ucp600)
        (abbreviated.compare { groups := [["CORP", "CO"]] }) (abbreviated.compare {}) := by
  obtain ⟨-, -, -, hjudged, -⟩ := compare_relaxed abbreviated { groups := [["CORP", "CO"]] } {} .ucp600
  exact ⟨by decide +kernel, by decide +kernel, hjudged⟩

end DocumentSet

end DocumentaryCredit

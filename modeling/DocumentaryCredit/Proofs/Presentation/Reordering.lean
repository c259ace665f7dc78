/-
The order in which documents are put together does not matter. Two documents disagree on a field as they would the other
way round, with the sides of the disagreement exchanged, and the dates of each are checked against the other's alike. So
the findings in a set with one credit at most are the same in every arrangement of its documents
(`DocumentSet.rel_compare_rearrange`); with several credits the first of them decides on the tolerance.
-/
import DocumentaryCredit.Proofs.Presentation.Independence
import Mathlib.Data.Multiset.MapFold
import Mathlib.Data.Multiset.ZeroCons

namespace DocumentaryCredit

/-- The same disagreement, where both sides are of one field perhaps as the other document sees it. -/
def Disagreement.Mirrors (d d' : Disagreement) : Prop := d' = d ∨ d.first.field = d.second.field ∧ d' = d.swapped

namespace Disagreement.Mirrors

theorem refl (d : Disagreement) : d.Mirrors d := .inl rfl

theorem trans {d d' d'' : Disagreement} (h : d.Mirrors d') (h' : d'.Mirrors d'') : d.Mirrors d'' := by
  rcases h with rfl | ⟨hfield, rfl⟩
  · exact h'
  · rcases h' with rfl | ⟨-, rfl⟩
    · exact .inr ⟨hfield, rfl⟩
    · exact .inl rfl

instance : IsTrans Disagreement Mirrors := ⟨fun _ _ _ => trans⟩

/-- A list of disagreements mirrors any rearrangement of it. -/
theorem rel_of_perm {l l' : List Disagreement} (h : l.Perm l') :
    Multiset.Rel Mirrors (l : Multiset Disagreement) l' := by
  rw [Multiset.coe_eq_coe.2 h]
  exact Multiset.rel_refl_of_refl_on fun d _ => refl d

end Disagreement.Mirrors

/-! ## Two documents -/

section Pair

variable {equivalence : Equivalence} {tolerance : Option Tolerance} {a b : Entry}

theorem Decimal.sameValue_comm (x y : Decimal) : x.sameValue y = y.sameValue x := by
  rw [Bool.eq_iff_iff, sameValue_iff, sameValue_iff, eq_comm]

theorem compareAmounts_comm (x y : Side) : compareAmounts tolerance y x = compareAmounts tolerance x y := by
  unfold compareAmounts
  cases parseAmount? x.value with
  | none => cases parseAmount? y.value <;> rfl
  | some m =>
    cases parseAmount? y.value with
    | none => rfl
    | some n =>
      refine if_congr ?_ rfl ?_
      · cases m.currency with
        | none => cases n.currency <;> rfl
        | some c =>
          cases n.currency with
          | none => rfl
          | some d =>
            dsimp only
            rw [bne_comm]
      · rw [Decimal.sameValue_comm]
        cases x.document.kind.isCredit <;> cases y.document.kind.isCredit <;> rfl

theorem compareDates_comm (x y : Side) : compareDates y x = compareDates x y := by
  unfold compareDates
  cases parseDate? x.value with
  | none => cases parseDate? y.value <;> rfl
  | some d =>
    cases parseDate? y.value with
    | none => rfl
    | some e => simp only [eq_comm]

theorem compareQuantities_comm (x y : Side) : compareQuantities y x = compareQuantities x y := by
  unfold compareQuantities
  cases parseQuantity? x.value with
  | none => cases parseQuantity? y.value <;> rfl
  | some m =>
    cases parseQuantity? y.value with
    | none => rfl
    | some n =>
      dsimp only
      rw [Decimal.sameValue_comm, Bool.beq_comm]

theorem compareTexts_comm (x y : Side) : compareTexts y x = compareTexts x y := by
  unfold compareTexts
  rw [Bool.beq_comm]

theorem Equivalence.relates_comm (s t : String) : equivalence.relates t s = equivalence.relates s t := by
  unfold relates
  rw [Bool.beq_comm]

/-- Two sides of one field disagree the same way round and the other. -/
theorem compareSides_swap {x y : Side} (h : x.field = y.field) :
    compareSides equivalence tolerance y x = (compareSides equivalence tolerance x y).map .swapped := by
  unfold compareSides
  rw [← h, compareAmounts_comm, compareDates_comm, compareQuantities_comm, compareTexts_comm,
    Equivalence.relates_comm]
  cases x.field.category <;> simp only [Option.map_map] <;> rfl

theorem fieldDisagreements_swap (a b : Entry) :
    fieldDisagreements equivalence tolerance b a = (fieldDisagreements equivalence tolerance a b).map .swapped := by
  simp only [fieldDisagreements, List.map_filterMap]
  refine List.filterMap_congr fun field _ => ?_
  cases hx : a.side? field with
  | none => cases b.side? field <;> rfl
  | some x =>
    cases hy : b.side? field with
    | none => rfl
    | some y =>
      exact compareSides_swap ((Entry.field_of_side? hx).1.trans (Entry.field_of_side? hy).1.symm)

theorem fields_eq_of_mem_fieldDisagreements {d : Disagreement}
    (h : d ∈ fieldDisagreements equivalence tolerance a b) : d.first.field = d.second.field := by
  obtain ⟨field, -, hd⟩ := List.mem_filterMap.1 h
  obtain ⟨hfirst, hsecond⟩ := sides_of_disagreement? hd
  exact (Entry.field_of_side? hfirst).1.trans (Entry.field_of_side? hsecond).1.symm

/-- Two documents yield the same in either order: what they both state is seen from the other side, and the dates of
each are checked against the other's as before. -/
theorem rel_comparePair_swap (hne : a.index ≠ b.index) :
    Multiset.Rel Disagreement.Mirrors (comparePair equivalence tolerance a b : Multiset Disagreement)
      (comparePair equivalence tolerance b a) := by
  have hfields : Multiset.Rel Disagreement.Mirrors
      (fieldDisagreements equivalence tolerance a b : Multiset Disagreement)
      (fieldDisagreements equivalence tolerance b a) := by
    rw [fieldDisagreements_swap a b, ← Multiset.map_coe, Multiset.rel_map_right]
    exact Multiset.rel_refl_of_refl_on fun d hd => .inr ⟨fields_eq_of_mem_fieldDisagreements hd, rfl⟩
  have hdates : Multiset.Rel Disagreement.Mirrors
      (boundDisagreements [] (boundedPairs a b ++ boundedPairs b a) : Multiset Disagreement)
      (boundDisagreements [] (boundedPairs b a ++ boundedPairs a b)) := by
    rw [boundDisagreements_directions hne, boundDisagreements_directions hne.symm]
    exact Disagreement.Mirrors.rel_of_perm List.perm_append_comm
  rw [comparePair, comparePair, ← Multiset.coe_add, ← Multiset.coe_add]
  exact hfields.add hdates

end Pair

/-! ## Sets -/

namespace DocumentSet

variable {equivalence : Equivalence} {tolerance : Option Tolerance}

/-- The pairs of numbered documents yield the same in whichever order the documents are paired. -/
theorem rel_flatMap_pairs {l l' : List Entry} (h : l.Perm l') (hnodup : (l.map Entry.index).Nodup) :
    Multiset.Rel Disagreement.Mirrors
      ((pairs l).flatMap fun p => comparePair equivalence tolerance p.1 p.2 : List Disagreement)
      ((pairs l').flatMap fun p => comparePair equivalence tolerance p.1 p.2 : List Disagreement) := by
  induction h with
  | nil => exact .zero
  | cons x h ih =>
    simp only [pairs, List.flatMap_append]
    rw [← Multiset.coe_add, ← Multiset.coe_add]
    have hfirst := (h.map fun y => (x, y)).flatMap_right fun p => comparePair equivalence tolerance p.1 p.2
    exact (Disagreement.Mirrors.rel_of_perm hfirst).add (ih (List.nodup_cons.1 hnodup).2)
  | swap x y l =>
    -- The pair of the two that change places comes first; what the others yield is only put in another order.
    have hne : y.index ≠ x.index := fun h => (List.nodup_cons.1 hnodup).1 (by simp [h])
    simp only [pairs, List.map_cons, List.flatMap_append, List.flatMap_cons, List.append_assoc]
    rw [← Multiset.coe_add, ← Multiset.coe_add]
    exact (rel_comparePair_swap hne).add (Disagreement.Mirrors.rel_of_perm (List.perm_append_comm_assoc ..))
  | trans h _ ih ih' => exact (ih hnodup).trans _ (ih' ((h.map _).nodup_iff.1 hnodup))

/-- The set with the document at each place put at another one. -/
def rearrange (set : DocumentSet) (σ : Equiv.Perm (Fin set.documents.length)) : DocumentSet :=
  { set with documents := List.ofFn fun i => set.documents[σ.symm i] }

/-- The places at which the documents are put; there are no documents at other places. -/
def place {n : Nat} (σ : Equiv.Perm (Fin n)) (i : Nat) : Nat := if h : i < n then σ ⟨i, h⟩ else i

theorem place_val {n : Nat} {σ : Equiv.Perm (Fin n)} (i : Fin n) : place σ i = σ i := dif_pos i.isLt

theorem place_injective {n : Nat} (σ : Equiv.Perm (Fin n)) : Function.Injective (place σ) := by
  intro i j h
  unfold place at h
  split at h <;> split at h
  · exact congrArg Fin.val (σ.injective (Fin.ext h))
  · omega
  · omega
  · exact h

variable (set : DocumentSet) (σ : Equiv.Perm (Fin set.documents.length))

theorem entries_rearrange : (set.rearrange σ).entries =
    (List.finRange set.documents.length).map fun i : Fin _ => ⟨i, set.documents[σ.symm i]⟩ := by
  refine List.ext_getElem (by simp [entries, rearrange]) fun i hi hi' => ?_
  simp [entries, rearrange]

/-- The documents of the rearranged set are those of the set at their new places. -/
theorem entries_perm_rearrange : (set.entries.map (.renumber (place σ))).Perm (set.rearrange σ).entries := by
  have hplaced : set.entries.map (.renumber (place σ)) = ((List.finRange set.documents.length).map σ).map
      fun i : Fin _ => (⟨i, set.documents[σ.symm i]⟩ : Entry) := by
    rw [entries_eq_map_finRange, List.map_map, List.map_map]
    refine List.map_congr_left fun i _ => ?_
    simp [Entry.renumber, place_val]
  rw [hplaced, entries_rearrange]
  exact σ.map_finRange_perm.map _

theorem documents_perm_rearrange : set.documents.Perm (set.rearrange σ).documents := by
  have hperm := (entries_perm_rearrange set σ).map Entry.document
  have hdocuments : set.entries.map (Entry.document ∘ Entry.renumber (place σ)) = set.documents := map_document_entries
  rwa [List.map_map, hdocuments, map_document_entries] at hperm

theorem tolerance?_rearrange (hone : set.documents.countP (·.kind.isCredit) ≤ 1) :
    (set.rearrange σ).tolerance? = set.tolerance? := by
  have hperm := documents_perm_rearrange set σ
  cases hfind : set.documents.find? (fun d => d.kind.isCredit) with
  | none =>
    have hfind' : (set.rearrange σ).documents.find? (fun d => d.kind.isCredit) = none :=
      List.find?_eq_none.2 fun d hd => List.find?_eq_none.1 hfind d (hperm.mem_iff.2 hd)
    rw [tolerance?, tolerance?, hfind, hfind']
  | some credit =>
    have hmem : credit ∈ set.documents := List.mem_of_find?_eq_some hfind
    have hcredit : credit.kind.isCredit = true := by simpa using List.find?_some hfind
    rw [tolerance?_of_mem hone hmem hcredit,
      tolerance?_of_mem (hperm.countP_eq _ ▸ hone) (hperm.mem_iff.1 hmem) hcredit]

/-- **The findings do not depend on the order of the documents.** However the documents of a set with one credit at most
are rearranged, the same disagreements are found, each as often as before, under the new places of their documents. One
on a field that both documents state may be seen from the other side; one of a date and its bound is the same. -/
theorem rel_compare_rearrange (set : DocumentSet) (equivalence : Equivalence)
    (hone : set.documents.countP (·.kind.isCredit) ≤ 1) (σ : Equiv.Perm (Fin set.documents.length)) :
    Multiset.Rel Disagreement.Mirrors ((set.compare equivalence).map (.renumber (place σ)) : List Disagreement)
      ((set.rearrange σ).compare equivalence : List Disagreement) := by
  have hperm := entries_perm_rearrange set σ
  have hnodup : ((set.entries.map (.renumber (place σ))).map Entry.index).Nodup := by
    rw [(hperm.map _).nodup_iff, map_index_entries]
    exact List.nodup_range
  rw [map_renumber_compare (place_injective σ), compare, tolerance?_rearrange set σ hone]
  exact rel_flatMap_pairs hperm hnodup

/-- A credit for a hundred dollars that expires in September, and an invoice for more that is issued in October. -/
def lateInvoice : DocumentSet := ⟨"S1", "LC1", [
  ⟨.credit, none, .ofList [("32B", "USD100,00"), ("31D", "240930LONDON")]⟩,
  ⟨.commercialInvoice, none, .ofList [("amount", "USD 110.00"), ("invoice_date", "2024-10-01")]⟩]⟩

theorem rel_compare_rearrange_lateInvoice :
    lateInvoice.documents.countP (·.kind.isCredit) ≤ 1 ∧
      (lateInvoice.compare {}).map (·.kind) = [.exceedsCredit, .laterThan] ∧
      Multiset.Rel Disagreement.Mirrors
        ((lateInvoice.compare {}).map (.renumber (place (Fin.revPerm : Equiv.Perm (Fin 2)))) : List Disagreement)
        ((lateInvoice.rearrange Fin.revPerm).compare {} : List Disagreement) := by
  have hone : lateInvoice.documents.countP (·.kind.isCredit) ≤ 1 := by decide
  exact ⟨hone, by decide +kernel, rel_compare_rearrange lateInvoice {} hone Fin.revPerm⟩

end DocumentSet

end DocumentaryCredit

/-
The places of documents in their set are only numbers: documents that are renumbered, each to a place of its own, yield
the same disagreements under their new numbers.
-/
import DocumentaryCredit.Proofs.Presentation.Bounds
import Mathlib.Data.Set.Function

namespace DocumentaryCredit

/-! ## Numbers -/

/-- The document at another place. -/
def DocumentRef.renumber (place : Nat → Nat) (r : DocumentRef) : DocumentRef := { r with index := place r.index }

/-- What is stated by the document at another place. -/
def Side.renumber (place : Nat → Nat) (s : Side) : Side := { s with document := s.document.renumber place }

/-- The document at another place of its set. -/
def Entry.renumber (place : Nat → Nat) (e : Entry) : Entry := { e with index := place e.index }

/-- The disagreement of the documents at other places. -/
def Disagreement.renumber (place : Nat → Nat) (d : Disagreement) : Disagreement :=
  { d with first := d.first.renumber place, second := d.second.renumber place }

section Renumber

variable {equivalence : Equivalence} {tolerance : Option Tolerance} {place : Nat → Nat} {a b : Entry}
  {field : LogicalField}

theorem Entry.side?_renumber : (a.renumber place).side? field = (a.side? field).map (.renumber place) := by
  simp only [side?, Option.map_map]
  rfl

theorem Side.renumber_field (s : Side) : (s.renumber place).field = s.field := rfl

theorem Side.renumber_value (s : Side) : (s.renumber place).value = s.value := rfl

theorem Side.renumber_kind (s : Side) : (s.renumber place).document.kind = s.document.kind := rfl

theorem compareSides_renumber (x y : Side) :
    compareSides equivalence tolerance (x.renumber place) (y.renumber place) =
      (compareSides equivalence tolerance x y).map (.renumber place) := by
  have hamounts : compareAmounts tolerance (x.renumber place) (y.renumber place) = compareAmounts tolerance x y := by
    unfold compareAmounts
    rw [Side.renumber_value, Side.renumber_value, Side.renumber_kind, Side.renumber_kind]
  have hdates : compareDates (x.renumber place) (y.renumber place) = compareDates x y := by
    unfold compareDates
    rw [Side.renumber_value, Side.renumber_value]
  have hquantities : compareQuantities (x.renumber place) (y.renumber place) = compareQuantities x y := by
    unfold compareQuantities
    rw [Side.renumber_value, Side.renumber_value]
  have htexts : compareTexts (x.renumber place) (y.renumber place) = compareTexts x y := by
    unfold compareTexts
    rw [Side.renumber_value, Side.renumber_value]
  unfold compareSides
  rw [hamounts, hdates, hquantities, htexts, Side.renumber_field]
  cases x.field.category <;> simp only [Option.map_map] <;> rfl

theorem fieldDisagreements_renumber :
    fieldDisagreements equivalence tolerance (a.renumber place) (b.renumber place) =
      (fieldDisagreements equivalence tolerance a b).map (.renumber place) := by
  simp only [fieldDisagreements, List.map_filterMap, Entry.side?_renumber]
  refine List.filterMap_congr fun field _ => ?_
  cases a.side? field with
  | none => rfl
  | some x =>
    cases b.side? field with
    | none => rfl
    | some y => exact compareSides_renumber x y

theorem boundedPairs_renumber :
    boundedPairs (a.renumber place) (b.renumber place) =
      (boundedPairs a b).map (Prod.map (Side.renumber place) (Side.renumber place)) := by
  simp only [boundedPairs, List.map_filterMap, Entry.side?_renumber]
  refine List.filterMap_congr fun bounds _ => ?_
  cases a.side? bounds.1 with
  | none => rfl
  | some x => cases b.side? bounds.2 <;> rfl

theorem checkBound_renumber (x y : Side) :
    checkBound (x.renumber place) (y.renumber place) =
      (checkBound x y).map (Prod.map id (Option.map (Side.renumber place))) := by
  unfold checkBound
  rw [Side.renumber_value, Side.renumber_value]
  cases parseDate? x.value with
  | none => rfl
  | some d =>
    cases parseDate? y.value with
    | none => rfl
    | some limit =>
      dsimp only
      split <;> rfl

/-- Reports follow their documents to other places, as long as no two culprits become one. -/
theorem boundDisagreements_renumber : ∀ {checks : List (Side × Side)} {reported : List Side},
    Set.InjOn (Side.renumber place) {s | s ∈ culprits checks ∨ s ∈ reported} →
    boundDisagreements (reported.map (.renumber place)) (checks.map (Prod.map (.renumber place) (.renumber place))) =
      (boundDisagreements reported checks).map (.renumber place)
  | [], _, _ => rfl
  | (date, bound) :: rest, reported, h => by
    rw [culprits_cons] at h
    simp only [List.mem_append] at h
    have hrest : Set.InjOn (Side.renumber place) {s | s ∈ culprits rest ∨ s ∈ reported} :=
      h.mono fun s hs => hs.imp_left .inr
    have hcheck' : checkBound (date.renumber place) (bound.renumber place) =
        (checkBound date bound).map (Prod.map id (Option.map (Side.renumber place))) := checkBound_renumber date bound
    rw [List.map_cons, Prod.map_apply]
    cases hcheck : checkBound date bound with
    | none =>
      rw [boundDisagreements_of_kept hcheck, boundDisagreements_of_kept (by rw [hcheck', hcheck]; rfl)]
      exact boundDisagreements_renumber hrest
    | some found =>
      obtain ⟨kind, _ | culprit⟩ := found
      · rw [boundDisagreements_of_later hcheck, boundDisagreements_of_later (by rw [hcheck', hcheck]; rfl),
          boundDisagreements_renumber hrest]
        rfl
      · -- The culprit was reported under its new number exactly when it was under its old one.
        replace hcheck' : checkBound (date.renumber place) (bound.renumber place) =
            some (kind, some (culprit.renumber place)) := by
          rw [hcheck', hcheck]
          rfl
        have hculprit : culprit ∈ ((checkBound date bound).bind (·.2)).toList := by simp [hcheck]
        have hseen : culprit.renumber place ∈ reported.map (Side.renumber place) ↔ culprit ∈ reported := by
          refine ⟨fun hmem => ?_, List.mem_map_of_mem⟩
          obtain ⟨s, hs, heq⟩ := List.mem_map.1 hmem
          exact h (.inr hs) (.inl (.inl hculprit)) heq ▸ hs
        by_cases hreported : culprit ∈ reported
        · rw [boundDisagreements_of_reported hcheck hreported,
            boundDisagreements_of_reported hcheck' (hseen.2 hreported)]
          exact boundDisagreements_renumber hrest
        · have hmore : Set.InjOn (Side.renumber place) {s | s ∈ culprits rest ∨ s ∈ culprit :: reported} := by
            refine h.mono fun s hs => ?_
            rcases hs with hs | hs
            · exact .inl (.inr hs)
            · rcases List.mem_cons.1 hs with rfl | hs
              · exact .inl (.inl hculprit)
              · exact .inr hs
          rw [boundDisagreements_of_unreported hcheck hreported,
            boundDisagreements_of_unreported hcheck' (mt hseen.1 hreported), ← List.map_cons,
            boundDisagreements_renumber hmore]
          rfl

theorem index_of_mem_culprits {s : Side} (h : s ∈ culprits (boundedPairs a b ++ boundedPairs b a)) :
    s.document.index = a.index ∨ s.document.index = b.index := by
  have hindex : ∀ {x y : Entry}, s ∈ culprits (boundedPairs x y) →
      s.document.index = x.index ∨ s.document.index = y.index := by
    intro x y hs
    obtain ⟨bounds, -, hside⟩ := exists_of_mem_culprits hs
    exact hside.imp (fun hx => congrArg DocumentRef.index (Entry.field_of_side? hx).2)
      (fun hy => congrArg DocumentRef.index (Entry.field_of_side? hy).2)
  rw [culprits_append, List.mem_append] at h
  exact h.elim hindex fun h => (hindex h).symm

/-- Where two documents go to different places, no two of their dates become one. -/
theorem injOn_renumber (h : place a.index = place b.index → a.index = b.index) :
    Set.InjOn (Side.renumber place)
      {s | s ∈ culprits (boundedPairs a b ++ boundedPairs b a) ∨ s ∈ ([] : List Side)} := by
  intro s hs t ht heq
  have hs := index_of_mem_culprits (hs.resolve_right List.not_mem_nil)
  have ht := index_of_mem_culprits (ht.resolve_right List.not_mem_nil)
  obtain ⟨field, ⟨i, kind, reference⟩, value⟩ := s
  obtain ⟨field', ⟨j, kind', reference'⟩, value'⟩ := t
  simp only [Side.renumber, DocumentRef.renumber, Side.mk.injEq, DocumentRef.mk.injEq] at hs ht heq ⊢
  obtain ⟨hfield, ⟨hplace, hdocument⟩, hvalue⟩ := heq
  refine ⟨hfield, ⟨?_, hdocument⟩, hvalue⟩
  rcases hs with rfl | rfl <;> rcases ht with rfl | rfl
  · rfl
  · exact h hplace
  · exact (h hplace.symm).symm
  · rfl

/-- What a pair yields follows its documents to other places. -/
theorem comparePair_renumber (h : place a.index = place b.index → a.index = b.index) :
    comparePair equivalence tolerance (a.renumber place) (b.renumber place) =
      (comparePair equivalence tolerance a b).map (.renumber place) := by
  rw [comparePair, comparePair, List.map_append, fieldDisagreements_renumber, boundedPairs_renumber,
    boundedPairs_renumber, ← List.map_append]
  exact congrArg _ (boundDisagreements_renumber (injOn_renumber h))

end Renumber

end DocumentaryCredit

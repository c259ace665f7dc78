/-
The checks of dates against the dates that bound them. A check whose dates cannot both be read has a culprit, the first
of its two sides that cannot, and of several checks with one culprit only the first is reported. The checks of the one
document's dates and those of the other's have no culprit in common, so that neither keeps back a report of the other.
-/
import DocumentaryCredit.Proofs.Presentation.Pairs

namespace DocumentaryCredit

/-! ## Culprits -/

/-- The sides that make checks unreadable, one for each check that cannot be made. -/
def culprits (checks : List (Side × Side)) : List Side :=
  checks.filterMap fun check => (checkBound check.1 check.2).bind (·.2)

/-- A check that cannot be made has one side that cannot be read, the date before its bound. -/
theorem checkBound_of_culprit {date bound culprit : Side} {kind : DisagreementKind}
    (h : checkBound date bound = some (kind, some culprit)) :
    kind = .unreadable ∧ (culprit = date ∨ culprit = bound) := by
  unfold checkBound at h
  split at h
  · split at h <;> cases h
  · cases h
    exact ⟨rfl, .inl rfl⟩
  · cases h
    exact ⟨rfl, .inr rfl⟩

theorem culprits_cons {date bound : Side} {rest : List (Side × Side)} :
    culprits ((date, bound) :: rest) = ((checkBound date bound).bind (·.2)).toList ++ culprits rest := by
  unfold culprits
  rw [List.filterMap_cons]
  cases (checkBound date bound).bind (·.2) <;> rfl

theorem culprits_append (checks checks' : List (Side × Side)) :
    culprits (checks ++ checks') = culprits checks ++ culprits checks' :=
  List.filterMap_append

/-! ## What has been reported -/

section Reports

variable {date bound culprit s : Side} {kind : DisagreementKind} {rest : List (Side × Side)} {reported : List Side}

theorem boundDisagreements_of_kept (h : checkBound date bound = none) :
    boundDisagreements reported ((date, bound) :: rest) = boundDisagreements reported rest := by
  simp only [boundDisagreements, h]

theorem boundDisagreements_of_later (h : checkBound date bound = some (kind, none)) :
    boundDisagreements reported ((date, bound) :: rest) =
      ⟨kind, date, bound, false⟩ :: boundDisagreements reported rest := by
  simp only [boundDisagreements, h]

theorem boundDisagreements_of_reported (h : checkBound date bound = some (kind, some culprit))
    (hculprit : culprit ∈ reported) :
    boundDisagreements reported ((date, bound) :: rest) = boundDisagreements reported rest := by
  simp only [boundDisagreements, h, List.contains_eq_mem, hculprit, decide_true, if_true]

theorem boundDisagreements_of_unreported (h : checkBound date bound = some (kind, some culprit))
    (hculprit : culprit ∉ reported) :
    boundDisagreements reported ((date, bound) :: rest) =
      ⟨kind, date, bound, false⟩ :: boundDisagreements (culprit :: reported) rest := by
  simp only [boundDisagreements, h, List.contains_eq_mem, hculprit, decide_false, Bool.false_eq_true, if_false]

end Reports

/-- What was reported before matters only as far as it holds culprits. -/
theorem boundDisagreements_congr : ∀ {checks : List (Side × Side)} {reported reported' : List Side},
    (∀ s ∈ culprits checks, s ∈ reported ↔ s ∈ reported') →
    boundDisagreements reported checks = boundDisagreements reported' checks
  | [], _, _, _ => rfl
  | (date, bound) :: rest, reported, reported', h => by
    rw [culprits_cons] at h
    have hrest : ∀ s ∈ culprits rest, s ∈ reported ↔ s ∈ reported' := fun s hs => h s (List.mem_append_right _ hs)
    cases hcheck : checkBound date bound with
    | none =>
      rw [boundDisagreements_of_kept hcheck, boundDisagreements_of_kept hcheck]
      exact boundDisagreements_congr hrest
    | some found =>
      obtain ⟨kind, _ | culprit⟩ := found
      · rw [boundDisagreements_of_later hcheck, boundDisagreements_of_later hcheck, boundDisagreements_congr hrest]
      · have hculprit : culprit ∈ reported ↔ culprit ∈ reported' := h culprit (by simp [hcheck])
        by_cases hseen : culprit ∈ reported
        · rw [boundDisagreements_of_reported hcheck hseen, boundDisagreements_of_reported hcheck (hculprit.1 hseen)]
          exact boundDisagreements_congr hrest
        · have hmore : ∀ s ∈ culprits rest, s ∈ culprit :: reported ↔ s ∈ culprit :: reported' := fun s hs => by
            rw [List.mem_cons, List.mem_cons, hrest s hs]
          rw [boundDisagreements_of_unreported hcheck hseen,
            boundDisagreements_of_unreported hcheck (mt hculprit.2 hseen), boundDisagreements_congr hmore]

/-- Checks that share no culprit with what came before are reported as if they came first. -/
theorem boundDisagreements_append {checks' : List (Side × Side)} :
    ∀ {checks : List (Side × Side)} {reported : List Side},
      (∀ s ∈ culprits checks', s ∉ reported ∧ s ∉ culprits checks) →
      boundDisagreements reported (checks ++ checks') =
        boundDisagreements reported checks ++ boundDisagreements [] checks'
  | [], reported, h => boundDisagreements_congr fun s hs => iff_of_false (h s hs).1 List.not_mem_nil
  | (date, bound) :: rest, reported, h => by
    simp only [culprits_cons, List.mem_append, not_or] at h
    have hrest : ∀ s ∈ culprits checks', s ∉ reported ∧ s ∉ culprits rest := fun s hs => ⟨(h s hs).1, (h s hs).2.2⟩
    rw [List.cons_append]
    cases hcheck : checkBound date bound with
    | none =>
      rw [boundDisagreements_of_kept hcheck, boundDisagreements_of_kept hcheck]
      exact boundDisagreements_append hrest
    | some found =>
      obtain ⟨kind, _ | culprit⟩ := found
      · rw [boundDisagreements_of_later hcheck, boundDisagreements_of_later hcheck, boundDisagreements_append hrest,
          List.cons_append]
      · by_cases hseen : culprit ∈ reported
        · rw [boundDisagreements_of_reported hcheck hseen, boundDisagreements_of_reported hcheck hseen]
          exact boundDisagreements_append hrest
        · have hmore : ∀ s ∈ culprits checks', s ∉ culprit :: reported ∧ s ∉ culprits rest := by
            intro s hs
            have hne : s ≠ culprit := by simpa [hcheck] using (h s hs).2.1
            exact ⟨by simp [hne, (h s hs).1], (h s hs).2.2⟩
          rw [boundDisagreements_of_unreported hcheck hseen, boundDisagreements_of_unreported hcheck hseen,
            boundDisagreements_append hmore, List.cons_append]

/-- Every culprit is reported, by a check that it is a side of, unless it was reported before. -/
theorem exists_report_of_mem_culprits {s : Side} : ∀ {checks : List (Side × Side)} {reported : List Side},
    s ∈ culprits checks → s ∉ reported →
    ∃ d ∈ boundDisagreements reported checks, d.kind = .unreadable ∧ (d.first = s ∨ d.second = s)
  | [], _, hs, _ => by simp [culprits] at hs
  | (date, bound) :: rest, reported, hs, hnew => by
    rw [culprits_cons, List.mem_append] at hs
    cases hcheck : checkBound date bound with
    | none =>
      rw [boundDisagreements_of_kept hcheck]
      exact exists_report_of_mem_culprits (by simpa [hcheck] using hs) hnew
    | some found =>
      obtain ⟨kind, _ | culprit⟩ := found
      · rw [boundDisagreements_of_later hcheck]
        obtain ⟨d, hd, hsides⟩ := exists_report_of_mem_culprits (by simpa [hcheck] using hs) hnew
        exact ⟨d, List.mem_cons_of_mem _ hd, hsides⟩
      · obtain ⟨hkind, hside⟩ := checkBound_of_culprit hcheck
        by_cases hculprit : s = culprit
        · subst hculprit
          rw [boundDisagreements_of_unreported hcheck hnew]
          exact ⟨_, List.mem_cons_self, hkind, hside.imp Eq.symm Eq.symm⟩
        · have hrest : s ∈ culprits rest := by simpa [hcheck, hculprit] using hs
          by_cases hseen : culprit ∈ reported
          · rw [boundDisagreements_of_reported hcheck hseen]
            exact exists_report_of_mem_culprits hrest hnew
          · rw [boundDisagreements_of_unreported hcheck hseen]
            obtain ⟨d, hd, hsides⟩ := exists_report_of_mem_culprits hrest
              (show s ∉ culprit :: reported by simp [hculprit, hnew])
            exact ⟨d, List.mem_cons_of_mem _ hd, hsides⟩

/-! ## Both directions -/

section Directions

variable {a b : Entry} {s : Side}

/-- A culprit of the checks of dates against bounds is such a date or such a bound. -/
theorem exists_of_mem_culprits (h : s ∈ culprits (boundedPairs a b)) :
    ∃ bounds ∈ dateBounds, a.side? bounds.1 = some s ∨ b.side? bounds.2 = some s := by
  obtain ⟨⟨date, bound⟩, hcheck, hs⟩ := List.mem_filterMap.1 h
  obtain ⟨⟨kind, culprit⟩, hfound, rfl⟩ := Option.bind_eq_some_iff.1 hs
  obtain ⟨bounds, hbounds, hdate, hbound⟩ := mem_boundedPairs_iff.1 hcheck
  obtain rfl | rfl := (checkBound_of_culprit hfound).2
  · exact ⟨bounds, hbounds, .inl hdate⟩
  · exact ⟨bounds, hbounds, .inr hbound⟩

/-- No date is bounded and bounds another one as well. -/
theorem date_ne_bound : ∀ x ∈ dateBounds, ∀ y ∈ dateBounds, x.1 ≠ y.2 := by decide

/-- What is stated of a field by different documents, or of different fields, is not the same. -/
theorem Entry.index_eq_of_side? {field field' : LogicalField} (h : a.side? field = some s)
    (h' : b.side? field' = some s) : a.index = b.index ∧ field = field' := by
  obtain ⟨hfield, hdocument⟩ := Entry.field_of_side? h
  obtain ⟨hfield', hdocument'⟩ := Entry.field_of_side? h'
  have hindex := congrArg DocumentRef.index (hdocument.symm.trans hdocument')
  exact ⟨hindex, hfield.symm.trans hfield'⟩

/-- The checks of the dates of two documents against each other have no culprit in common. -/
theorem not_mem_culprits (hne : a.index ≠ b.index) (h : s ∈ culprits (boundedPairs b a)) :
    s ∉ culprits (boundedPairs a b) := by
  intro h'
  obtain ⟨x, hx, hxs⟩ := exists_of_mem_culprits h
  obtain ⟨y, hy, hys⟩ := exists_of_mem_culprits h'
  -- Two dates or two bounds are of different documents, a date and a bound are of different fields.
  rcases hxs with hxs | hxs <;> rcases hys with hys | hys
  · exact hne (Entry.index_eq_of_side? hys hxs).1
  · exact date_ne_bound x hx y hy (Entry.index_eq_of_side? hxs hys).2
  · exact date_ne_bound y hy x hx (Entry.index_eq_of_side? hys hxs).2
  · exact hne (Entry.index_eq_of_side? hxs hys).1

/-- The dates of each of two documents are reported as if the other's were not checked. -/
theorem boundDisagreements_directions (hne : a.index ≠ b.index) :
    boundDisagreements [] (boundedPairs a b ++ boundedPairs b a) =
      boundDisagreements [] (boundedPairs a b) ++ boundDisagreements [] (boundedPairs b a) :=
  boundDisagreements_append fun _ hs => ⟨List.not_mem_nil, not_mem_culprits hne hs⟩

end Directions

end DocumentaryCredit

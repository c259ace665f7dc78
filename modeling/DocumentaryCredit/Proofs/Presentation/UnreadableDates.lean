/-
Which dates that cannot be read are reported. Of a check whose dates cannot both be read only the first culprit counts,
and a later check with this culprit is left out, with all that it would say of its other side. The one date that this can
pass over is an expiry date: an unreadable shipment date has been reported against the latest shipment date by the time it
is checked against the expiry, and no issue date is there to bring the expiry up again
(`DocumentSet.exists_unreadable_iff`).
-/
import DocumentaryCredit.Proofs.Presentation.Bounds

namespace DocumentaryCredit

/-- The disagreement is on what a document states of a field. -/
def Disagreement.Mentions (d : Disagreement) (i : Nat) (field : LogicalField) : Prop :=
  d.first.document.index = i ∧ d.first.field = field ∨ d.second.document.index = i ∧ d.second.field = field

instance (d : Disagreement) (i : Nat) (field : LogicalField) : Decidable (d.Mentions i field) := by
  unfold Disagreement.Mentions; infer_instance

/-- The document states a date that the other document's date of a field is checked against, be it as its bound or as a
date that it bounds. -/
def Document.IsCheckedWith (b : Document) (field : LogicalField) : Prop :=
  ∃ bounds ∈ dateBounds,
    field = bounds.1 ∧ (b.stated? bounds.2).isSome ∨ field = bounds.2 ∧ (b.stated? bounds.1).isSome

instance (b : Document) (field : LogicalField) : Decidable (b.IsCheckedWith field) := by
  unfold Document.IsCheckedWith; infer_instance

/-- The expiry date of a document is not come back to: the shipment date of the other one, which cannot be read, is
checked against the latest shipment date first, and there is no issue date. -/
structure Document.PassesOverExpiry (a b : Document) : Prop where
  latest : (a.stated? .latestShipmentDate).isSome
  shipment : ∃ date, b.stated? .shipmentDate = some date ∧ parseDate? date = none
  issue : b.stated? .issueDate = none

/-! ## The dates of one document -/

section Direction

variable {x y : Entry} {date bound s : Side} {bounds : LogicalField × LogicalField}

theorem checkBound_of_date (h : parseDate? date.value = none) :
    checkBound date bound = some (.unreadable, some date) := by
  simp only [checkBound, h]

theorem checkBound_of_bound {d : Date} (h : parseDate? date.value = some d) (hbound : parseDate? bound.value = none) :
    checkBound date bound = some (.unreadable, some bound) := by
  simp only [checkBound, h, hbound]

theorem mem_culprits_of_checkBound {kind : DisagreementKind} (hbounds : bounds ∈ dateBounds)
    (hdate : x.side? bounds.1 = some date) (hbound : y.side? bounds.2 = some bound)
    (hcheck : checkBound date bound = some (kind, some s)) : s ∈ culprits (boundedPairs x y) :=
  List.mem_filterMap.2 ⟨(date, bound), mem_boundedPairs_iff.2 ⟨bounds, hbounds, hdate, hbound⟩, by simp [hcheck]⟩

theorem exists_of_mem_direction {d : Disagreement} (h : d ∈ boundDisagreements [] (boundedPairs x y)) :
    ∃ bounds ∈ dateBounds, x.side? bounds.1 = some d.first ∧ y.side? bounds.2 = some d.second :=
  mem_boundedPairs_iff.1 (mem_of_mem_boundDisagreements h)

/-- A date that cannot be read is reported with one of its bounds. -/
theorem exists_report_of_date (hbounds : bounds ∈ dateBounds) (hdate : x.side? bounds.1 = some date)
    (hbound : y.side? bounds.2 = some bound) (hunreadable : parseDate? date.value = none) :
    ∃ d ∈ boundDisagreements [] (boundedPairs x y), d.kind = .unreadable ∧ d.first = date := by
  have hculprit := mem_culprits_of_checkBound hbounds hdate hbound (checkBound_of_date hunreadable)
  obtain ⟨d, hd, hkind, hside⟩ := exists_report_of_mem_culprits hculprit List.not_mem_nil
  refine ⟨d, hd, hkind, hside.resolve_right fun hsecond => ?_⟩
  obtain ⟨bounds', hbounds', -, hbound'⟩ := exists_of_mem_direction hd
  rw [hsecond] at hbound'
  exact date_ne_bound bounds hbounds bounds' hbounds' (Entry.index_eq_of_side? hdate hbound').2

/-- A bound that cannot be read is reported, if a date that it bounds can be. -/
theorem exists_report_of_bound (hbounds : bounds ∈ dateBounds) (hdate : x.side? bounds.1 = some date)
    (hbound : y.side? bounds.2 = some bound) {d : Date} (hreadable : parseDate? date.value = some d)
    (hunreadable : parseDate? bound.value = none) :
    ∃ d ∈ boundDisagreements [] (boundedPairs x y), d.kind = .unreadable ∧ d.second = bound := by
  have hculprit := mem_culprits_of_checkBound hbounds hdate hbound (checkBound_of_bound hreadable hunreadable)
  obtain ⟨d, hd, hkind, hside⟩ := exists_report_of_mem_culprits hculprit List.not_mem_nil
  refine ⟨d, hd, hkind, hside.resolve_left fun hfirst => ?_⟩
  obtain ⟨bounds', hbounds', hdate', -⟩ := exists_of_mem_direction hd
  rw [hfirst] at hdate'
  exact date_ne_bound bounds' hbounds' bounds hbounds (Entry.index_eq_of_side? hdate' hbound).2

/-- The only bound of a date that cannot be read is reported with it. -/
theorem exists_report_of_only_bound (hbounds : bounds ∈ dateBounds) (hdate : x.side? bounds.1 = some date)
    (hbound : y.side? bounds.2 = some bound) (hunreadable : parseDate? date.value = none)
    (honly : ∀ bounds' ∈ dateBounds, bounds'.1 = bounds.1 → (y.side? bounds'.2).isSome → bounds'.2 = bounds.2) :
    ∃ d ∈ boundDisagreements [] (boundedPairs x y), d.kind = .unreadable ∧ d.second = bound := by
  obtain ⟨d, hd, hkind, hfirst⟩ := exists_report_of_date hbounds hdate hbound hunreadable
  obtain ⟨bounds', hbounds', hdate', hbound'⟩ := exists_of_mem_direction hd
  rw [hfirst] at hdate'
  have hfield := (Entry.index_eq_of_side? hdate' hdate).2
  rw [honly bounds' hbounds' hfield (by simp [hbound']), hbound, Option.some.injEq] at hbound'
  exact ⟨d, hd, hkind, hbound'.symm⟩

/-- The latest shipment date is reported with a shipment date that cannot be read: this check is the first one. -/
theorem exists_report_of_latest (hdate : x.side? .shipmentDate = some date)
    (hbound : y.side? .latestShipmentDate = some bound) (hunreadable : parseDate? date.value = none) :
    ∃ d ∈ boundDisagreements [] (boundedPairs x y), d.kind = .unreadable ∧ d.second = bound := by
  obtain ⟨rest, hrest⟩ : ∃ rest, boundedPairs x y = (date, bound) :: rest := by
    simp only [boundedPairs, dateBounds, List.filterMap_cons, hdate, hbound]
    exact ⟨_, rfl⟩
  rw [hrest, boundDisagreements_of_unreported (checkBound_of_date hunreadable) List.not_mem_nil]
  exact ⟨_, List.mem_cons_self, rfl, rfl⟩

/-- An expiry date that cannot be read is reported with an issue date, be this readable or not. -/
theorem exists_report_of_issue (hdate : x.side? .issueDate = some date) (hbound : y.side? .expiryDate = some bound)
    (hunreadable : parseDate? bound.value = none) :
    ∃ d ∈ boundDisagreements [] (boundedPairs x y), d.kind = .unreadable ∧ d.second = bound := by
  have hbounds : (LogicalField.issueDate, LogicalField.expiryDate) ∈ dateBounds := by decide
  have honly : ∀ bounds ∈ dateBounds, bounds.1 = .issueDate → bounds.2 = .expiryDate := by decide
  cases hread : parseDate? date.value with
  | some d => exact exists_report_of_bound hbounds hdate hbound hread hunreadable
  | none =>
    exact exists_report_of_only_bound hbounds hdate hbound hread fun bounds hmem hfield _ => honly bounds hmem hfield

theorem Entry.side?_eq_none_iff {field : LogicalField} : x.side? field = none ↔ x.document.stated? field = none := by
  rw [side?, Option.map_eq_none_iff]

/-- A bound that cannot be read is reported, unless it is an expiry date that is not come back to. -/
theorem exists_report_of_not_passesOver (hbounds : bounds ∈ dateBounds) (hdate : x.side? bounds.1 = some date)
    (hbound : y.side? bounds.2 = some bound) (hunreadable : parseDate? bound.value = none)
    (hseen : bounds.2 = .expiryDate → ¬ y.document.PassesOverExpiry x.document) :
    ∃ d ∈ boundDisagreements [] (boundedPairs x y), d.kind = .unreadable ∧ d.second = bound := by
  cases hread : parseDate? date.value with
  | some d => exact exists_report_of_bound hbounds hdate hbound hread hunreadable
  | none =>
    simp only [dateBounds, List.mem_cons, List.not_mem_nil, or_false] at hbounds
    -- Only the shipment date has two bounds, and of these the expiry is the later one to be checked.
    rcases hbounds with rfl | rfl | rfl
    · exact exists_report_of_latest hdate hbound hread
    · cases hissue : x.side? .issueDate with
      | some issue => exact exists_report_of_issue hissue hbound hunreadable
      | none =>
        have hlatest : y.side? .latestShipmentDate = none := by
          by_contra hlatest
          rw [Entry.side?_eq_none_iff] at hlatest
          obtain ⟨value, hvalue, rfl⟩ := Option.map_eq_some_iff.1 hdate
          exact hseen rfl
            ⟨Option.isSome_iff_ne_none.2 hlatest, ⟨value, hvalue, hread⟩, Entry.side?_eq_none_iff.1 hissue⟩
        refine exists_report_of_only_bound (by decide) hdate hbound hread fun bounds' hbounds' hfield hsome => ?_
        have hcases : ∀ bounds' ∈ dateBounds, bounds'.1 = .shipmentDate →
            bounds'.2 = .latestShipmentDate ∨ bounds'.2 = .expiryDate := by decide
        refine (hcases bounds' hbounds' hfield).resolve_left fun hlatest' => ?_
        rw [hlatest', hlatest] at hsome
        cases hsome
    · exact exists_report_of_issue hdate hbound hunreadable

/-- Where an expiry date is not come back to, the latest shipment date is the only bound that is reported. -/
theorem field_of_passesOver (h : y.document.PassesOverExpiry x.document) {d : Disagreement}
    (hd : d ∈ boundDisagreements [] (boundedPairs x y)) : d.second.field = .latestShipmentDate := by
  obtain ⟨latest, hlatest⟩ := Option.isSome_iff_exists.1 h.latest
  obtain ⟨value, hshipment, hunreadable⟩ := h.shipment
  obtain ⟨shipment, hshipment, hcheck⟩ : ∃ shipment, x.side? .shipmentDate = some shipment ∧
      ∀ bound, checkBound shipment bound = some (.unreadable, some shipment) :=
    ⟨⟨.shipmentDate, .of x.index x.document, value⟩, by simp [Entry.side?, hshipment],
      fun bound => checkBound_of_date hunreadable⟩
  obtain ⟨bound, hbound, hfield⟩ : ∃ bound, y.side? .latestShipmentDate = some bound ∧
      bound.field = .latestShipmentDate :=
    ⟨⟨.latestShipmentDate, .of y.index y.document, latest⟩, by simp [Entry.side?, hlatest], rfl⟩
  have hissue : x.side? .issueDate = none := Entry.side?_eq_none_iff.2 h.issue
  -- Behind the check against the latest shipment date there is at most one more, and it has the same culprit.
  have hpairs : boundedPairs x y = (shipment, bound) :: ((y.side? .expiryDate).map (Prod.mk shipment)).toList := by
    simp only [boundedPairs, dateBounds, List.filterMap_cons, List.filterMap_nil, hshipment, hbound, hissue]
    cases y.side? .expiryDate <;> rfl
  have hrest : boundDisagreements [shipment] ((y.side? .expiryDate).map (Prod.mk shipment)).toList = [] := by
    cases y.side? .expiryDate with
    | none => rfl
    | some expiry => exact boundDisagreements_of_reported (hcheck expiry) List.mem_cons_self
  rw [hpairs, boundDisagreements_of_unreported (hcheck bound) List.not_mem_nil, hrest, List.mem_singleton] at hd
  rw [hd]
  exact hfield

end Direction

/-! ## The dates of two documents -/

namespace DocumentSet

variable {set : DocumentSet} {equivalence : Equivalence} {i j : Nat} {a b : Document} {field : LogicalField}
  {value : String}

theorem mem_comparePair_iff {tolerance : Option Tolerance} {x y : Entry} {d : Disagreement} (hne : x.index ≠ y.index) :
    d ∈ comparePair equivalence tolerance x y ↔ d ∈ fieldDisagreements equivalence tolerance x y ∨
      d ∈ boundDisagreements [] (boundedPairs x y) ∨ d ∈ boundDisagreements [] (boundedPairs y x) := by
  rw [comparePair, boundDisagreements_directions hne, List.mem_append, List.mem_append]

theorem mem_comparePair_iff_isBetween {d : Disagreement} (hij : i < j) (ha : set.documents[i]? = some a)
    (hb : set.documents[j]? = some b) :
    d ∈ comparePair equivalence set.tolerance? ⟨i, a⟩ ⟨j, b⟩ ↔ d ∈ set.compare equivalence ∧ d.IsBetween i j := by
  rw [← filter_isBetween_compare hij ha hb, List.mem_filter, decide_eq_true_iff]

theorem mem_compare_of_mem_direction {d : Disagreement} (hij : i ≠ j) (ha : set.documents[i]? = some a)
    (hb : set.documents[j]? = some b) (hd : d ∈ boundDisagreements [] (boundedPairs ⟨i, a⟩ ⟨j, b⟩)) :
    d ∈ set.compare equivalence ∧ d.IsBetween i j := by
  rcases Nat.lt_or_gt_of_ne hij with hlt | hgt
  · exact (mem_comparePair_iff_isBetween hlt ha hb).1 ((mem_comparePair_iff hij).2 (.inr (.inl hd)))
  · rw [Disagreement.isBetween_comm]
    exact (mem_comparePair_iff_isBetween hgt hb ha).1 ((mem_comparePair_iff hij.symm).2 (.inr (.inr hd)))

theorem mustAgree_of_mem_fieldDisagreements {tolerance : Option Tolerance} {x y : Entry} {d : Disagreement}
    (hd : d ∈ fieldDisagreements equivalence tolerance x y) :
    d.first.field.mustAgree = true ∧ d.second.field.mustAgree = true := by
  obtain ⟨field, hfield, hd⟩ := List.mem_filterMap.1 hd
  obtain ⟨hfirst, hsecond⟩ := sides_of_disagreement? hd
  rw [(Entry.field_of_side? hfirst).1, (Entry.field_of_side? hsecond).1, and_self]
  exact (List.mem_filter.1 hfield).2

/-- What is found between two documents is on fields that they must agree on, or about the dates of one of the two. -/
theorem cases_of_mem_compare {d : Disagreement} (hij : i ≠ j) (ha : set.documents[i]? = some a)
    (hb : set.documents[j]? = some b) (hd : d ∈ set.compare equivalence) (hbetween : d.IsBetween i j) :
    (d.first.field.mustAgree = true ∧ d.second.field.mustAgree = true) ∨
      d ∈ boundDisagreements [] (boundedPairs ⟨i, a⟩ ⟨j, b⟩) ∨
      d ∈ boundDisagreements [] (boundedPairs ⟨j, b⟩ ⟨i, a⟩) := by
  rcases Nat.lt_or_gt_of_ne hij with hlt | hgt
  · have hpair := (mem_comparePair_iff hij).1 ((mem_comparePair_iff_isBetween hlt ha hb).2 ⟨hd, hbetween⟩)
    exact hpair.imp_left mustAgree_of_mem_fieldDisagreements
  · rw [Disagreement.isBetween_comm] at hbetween
    have hpair := (mem_comparePair_iff hij.symm).1 ((mem_comparePair_iff_isBetween hgt hb ha).2 ⟨hd, hbetween⟩)
    exact hpair.imp mustAgree_of_mem_fieldDisagreements Or.symm

/-- An expiry date that is not come back to is in nothing that is found between the two documents. -/
theorem not_mentions_of_passesOver (hij : i ≠ j) (ha : set.documents[i]? = some a) (hb : set.documents[j]? = some b)
    (hpasses : a.PassesOverExpiry b) {d : Disagreement} (hd : d ∈ set.compare equivalence)
    (hbetween : d.IsBetween i j) : ¬ d.Mentions i .expiryDate := by
  intro hmentions
  rcases cases_of_mem_compare hij ha hb hd hbetween with ⟨hfirst, hsecond⟩ | hd | hd
  · rcases hmentions with ⟨-, hfield⟩ | ⟨-, hfield⟩
    · rw [hfield] at hfirst
      cases hfirst
    · rw [hfield] at hsecond
      cases hsecond
  · obtain ⟨bounds, hbounds, hfirst, hsecond⟩ := exists_of_mem_direction hd
    rcases hmentions with ⟨-, hfield⟩ | ⟨hindex, -⟩
    · rw [(Entry.field_of_side? hfirst).1] at hfield
      exact date_ne_bound bounds hbounds (.issueDate, .expiryDate) (by decide) hfield
    · rw [(Entry.field_of_side? hsecond).2] at hindex
      exact hij hindex.symm
  · obtain ⟨bounds, -, hfirst, -⟩ := exists_of_mem_direction hd
    rcases hmentions with ⟨hindex, -⟩ | ⟨-, hfield⟩
    · rw [(Entry.field_of_side? hfirst).2] at hindex
      exact hij hindex.symm
    · rw [field_of_passesOver hpasses hd] at hfield
      cases hfield

/-- **Every unreadable date is reported, but for an expiry date that is not come back to.** Of two documents of a set, a
date that the one states, that is checked with a date of the other and that cannot be read, is in an unreadable
disagreement of the two, except an expiry date where the other document has no issue date and its shipment date, which
cannot be read either, is checked against a latest shipment date before. -/
theorem exists_unreadable_iff (set : DocumentSet) (equivalence : Equivalence) (hij : i ≠ j)
    (ha : set.documents[i]? = some a) (hb : set.documents[j]? = some b) (hstated : a.stated? field = some value)
    (hchecked : b.IsCheckedWith field) (hunreadable : parseDate? value = none) :
    (∃ d ∈ set.compare equivalence, d.IsBetween i j ∧ d.kind = .unreadable ∧ d.Mentions i field) ↔
      ¬ (field = .expiryDate ∧ a.PassesOverExpiry b) := by
  have hside : (Entry.mk i a).side? field = some ⟨field, .of i a, value⟩ := by simp [Entry.side?, hstated]
  constructor
  · rintro ⟨d, hd, hbetween, -, hmentions⟩ ⟨rfl, hpasses⟩
    exact not_mentions_of_passesOver hij ha hb hpasses hd hbetween hmentions
  · intro hseen
    obtain ⟨bounds, hbounds, ⟨rfl, hother⟩ | ⟨rfl, hother⟩⟩ := hchecked
    · obtain ⟨other, hother⟩ := Option.isSome_iff_exists.1 hother
      have hbound : (Entry.mk j b).side? bounds.2 = some ⟨bounds.2, .of j b, other⟩ := by simp [Entry.side?, hother]
      obtain ⟨d, hd, hkind, hfirst⟩ := exists_report_of_date hbounds hside hbound hunreadable
      obtain ⟨hfound, hbetween⟩ := mem_compare_of_mem_direction hij ha hb hd
      exact ⟨d, hfound, hbetween, hkind, .inl (by simp [hfirst, DocumentRef.of])⟩
    · obtain ⟨other, hother⟩ := Option.isSome_iff_exists.1 hother
      have hdate : (Entry.mk j b).side? bounds.1 = some ⟨bounds.1, .of j b, other⟩ := by simp [Entry.side?, hother]
      obtain ⟨d, hd, hkind, hsecond⟩ := exists_report_of_not_passesOver hbounds hdate hside hunreadable
        fun hexpiry hpasses => hseen ⟨hexpiry, hpasses⟩
      obtain ⟨hfound, hbetween⟩ := mem_compare_of_mem_direction hij.symm hb ha hd
      exact ⟨d, hfound, Disagreement.isBetween_comm.1 hbetween, hkind, .inr (by simp [hsecond, DocumentRef.of])⟩

/-- A credit with a latest shipment date and an expiry that is no date. -/
def openCredit : Document := ⟨.credit, none, .ofList [("44C", "240831"), ("31D", "TO BE ADVISED")]⟩

/-- A bill of lading without a readable shipment date, but with an issue date. -/
def issuedBill : Document := ⟨.billOfLading, none, .ofList [("shipment_date", "soon"), ("issue_date", "2024-08-20")]⟩

theorem exists_unreadable_iff_issuedBill :
    openCredit.stated? .expiryDate = some "TO BE ADVISED" ∧ issuedBill.IsCheckedWith .expiryDate ∧
      parseDate? "TO BE ADVISED" = none ∧
      ∃ d ∈ (DocumentSet.mk "S1" "LC1" [openCredit, issuedBill]).compare {},
        d.IsBetween 0 1 ∧ d.kind = .unreadable ∧ d.Mentions 0 .expiryDate := by
  have hstated : openCredit.stated? .expiryDate = some "TO BE ADVISED" := by decide +kernel
  have hchecked : issuedBill.IsCheckedWith .expiryDate := by decide +kernel
  have hunreadable : parseDate? "TO BE ADVISED" = none := by decide +kernel
  have hissue : issuedBill.stated? .issueDate ≠ none := by decide +kernel
  have hfound := exists_unreadable_iff ⟨"S1", "LC1", [openCredit, issuedBill]⟩ {} Nat.zero_ne_one rfl rfl hstated
    hchecked hunreadable
  exact ⟨hstated, hchecked, hunreadable, hfound.2 fun h => hissue h.2.issue⟩

/-- A bill of lading without a readable shipment date and without an issue date. -/
def soonShipped : Document := ⟨.billOfLading, none, .ofList [("shipment_date", "soon")]⟩

/-- An expiry that cannot be read, and that a shipment date is checked against, is in no disagreement: the only one is of
the shipment date, which cannot be read either, and the latest shipment date. -/
theorem unreadable_expiry_unmentioned :
    openCredit.stated? .expiryDate = some "TO BE ADVISED" ∧ soonShipped.IsCheckedWith .expiryDate ∧
      parseDate? "TO BE ADVISED" = none ∧
      (DocumentSet.mk "S1" "LC1" [openCredit, soonShipped]).compare {} = [⟨.unreadable,
        ⟨.shipmentDate, ⟨1, .billOfLading, none⟩, "soon"⟩, ⟨.latestShipmentDate, ⟨0, .credit, none⟩, "240831"⟩,
        false⟩] ∧
      ¬ ∃ d ∈ (DocumentSet.mk "S1" "LC1" [openCredit, soonShipped]).compare {},
        d.IsBetween 0 1 ∧ d.kind = .unreadable ∧ d.Mentions 0 .expiryDate := by
  decide +kernel

end DocumentSet

end DocumentaryCredit

/-
When the documents of a set agree, said without the comparison: two documents are consistent when they agree on
every field that both state and must agree on, and when no date of one is after a date of the other that bounds it.
The report on a set is clean exactly when its documents are consistent in pairs (`DocumentSet.isClean_report_iff`).
-/
import DocumentaryCredit.Presentation.Report
import DocumentaryCredit.Proofs.Order

namespace DocumentaryCredit

/-! ## Consistent documents -/

/-- The amount that a credit permits: its own, or what a tolerance makes of it, which may be more than fits. -/
def permitted? (tolerance : Option Tolerance) (amount : Decimal) : Option Decimal :=
  match tolerance with
  | some t => t.ceiling? amount
  | none => some amount

/-- The presented amount is at most what the credit permits. -/
def WithinCredit (tolerance : Option Tolerance) (credit presented : Amount) : Prop :=
  ∃ ceiling, permitted? tolerance credit.value = some ceiling ∧ presented.value.toRat ≤ ceiling.toRat

/-- Two amounts that can be read are not in different currencies. Where one of the documents is the credit, the
other one's amount is within it, else both are equal. -/
def AmountsAgree (tolerance : Option Tolerance) (a b : DocumentKind) (x y : String) : Prop :=
  ∃ m n, parseAmount? x = some m ∧ parseAmount? y = some n ∧
    (∀ c d, m.currency = some c → n.currency = some d → c = d) ∧
    (a.isCredit = true → b.isCredit = false → WithinCredit tolerance m n) ∧
    (a.isCredit = false → b.isCredit = true → WithinCredit tolerance n m) ∧
    (a.isCredit = b.isCredit → m.value.toRat = n.value.toRat)

/-- Two values of a field agree as values of its category do. -/
def ValuesAgree (tolerance : Option Tolerance) (a b : DocumentKind) (field : LogicalField) (x y : String) : Prop :=
  match field.category with
  | .amount => AmountsAgree tolerance a b x y
  | .date => ∃ d, parseDate? x = some d ∧ parseDate? y = some d
  | .quantity => ∃ m n, parseQuantity? x = some m ∧ parseQuantity? y = some n ∧
      m.value.toRat = n.value.toRat ∧ m.unit = n.unit
  | .partyName | .goodsDescription | .place | .reference => normalizeText x false = normalizeText y false

namespace Document

/-- Where one document states a date and the other the date that bounds it, both can be read and the one is not
after the other. -/
def NotAfter (a b : Document) (field bound : LogicalField) : Prop :=
  ∀ x y, a.stated? field = some x → b.stated? bound = some y →
    ∃ d limit, parseDate? x = some d ∧ parseDate? y = some limit ∧ d.key ≤ limit.key

/-- The dates of a document are within those of another one. -/
structure DatesWithin (a b : Document) : Prop where
  shipment : a.NotAfter b .shipmentDate .latestShipmentDate
  shipmentExpiry : a.NotAfter b .shipmentDate .expiryDate
  issueExpiry : a.NotAfter b .issueDate .expiryDate

/-- Two documents agree on the fields that they must agree on, and their dates are within each other's. -/
structure Consistent (tolerance : Option Tolerance) (a b : Document) : Prop where
  fields : ∀ field x y, field.mustAgree = true → a.stated? field = some x → b.stated? field = some y →
    ValuesAgree tolerance a.kind b.kind field x y
  dates : a.DatesWithin b
  datesBack : b.DatesWithin a

end Document

/-- Each two documents of the set are consistent under the tolerance of its first credit. -/
def DocumentSet.Consistent (set : DocumentSet) : Prop :=
  ∀ (i j : Nat) (a b : Document), i < j → set.documents[i]? = some a → set.documents[j]? = some b →
    a.Consistent set.tolerance? b

/-! ## One field -/

/-- What the comparison makes of a credit's amount and a presented one. -/
theorem exceeds_ceiling_eq_none_iff (tolerance : Option Tolerance) (credit presented : Amount) :
    (match permitted? tolerance credit.value with
      | none => some DisagreementKind.unreadable
      | some ceiling => if presented.value.exceeds ceiling then some .exceedsCredit else none) = none ↔
      WithinCredit tolerance credit presented := by
  unfold WithinCredit
  cases permitted? tolerance credit.value with
  | none => simp
  | some ceiling => simp [← not_lt, ← Decimal.exceeds_iff]

theorem compareAmounts_eq_none_iff {tolerance : Option Tolerance} {a b : Side} :
    compareAmounts tolerance a b = none ↔
      AmountsAgree tolerance a.document.kind b.document.kind a.value b.value := by
  unfold compareAmounts AmountsAgree
  cases parseAmount? a.value with
  | none => simp
  | some m =>
  cases parseAmount? b.value with
  | none => simp
  | some n =>
  simp only [Option.some.injEq, exists_and_left, exists_eq_left']
  by_cases hsame : ∀ c d, m.currency = some c → n.currency = some d → c = d
  · rw [if_neg]
    · simp only [iff_true_intro hsame, true_and]
      cases a.document.kind.isCredit <;> cases b.document.kind.isCredit
      · simp [← Decimal.sameValue_iff]
      · exact (exceeds_ceiling_eq_none_iff tolerance n m).trans (by simp)
      · exact (exceeds_ceiling_eq_none_iff tolerance m n).trans (by simp)
      · simp [← Decimal.sameValue_iff]
    · revert hsame
      cases m.currency <;> cases n.currency <;> simp
  · rw [if_pos]
    · simp [hsame]
    · revert hsame
      cases m.currency <;> cases n.currency <;> simp

theorem compareDates_eq_none_iff {a b : Side} :
    compareDates a b = none ↔ ∃ d, parseDate? a.value = some d ∧ parseDate? b.value = some d := by
  unfold compareDates
  cases parseDate? a.value with
  | none => simp
  | some d =>
    cases parseDate? b.value with
    | none => simp
    | some e => simp [eq_comm]

theorem compareQuantities_eq_none_iff {a b : Side} :
    compareQuantities a b = none ↔ ∃ m n, parseQuantity? a.value = some m ∧ parseQuantity? b.value = some n ∧
      m.value.toRat = n.value.toRat ∧ m.unit = n.unit := by
  unfold compareQuantities
  cases parseQuantity? a.value with
  | none => simp
  | some m =>
    cases parseQuantity? b.value with
    | none => simp
    | some n => simp [Decimal.sameValue_iff]

theorem compareTexts_eq_none_iff {a b : Side} :
    compareTexts a b = none ↔ normalizeText a.value false = normalizeText b.value false := by
  simp [compareTexts]

theorem compareSides_eq_none_iff {equivalence : Equivalence} {tolerance : Option Tolerance} {a b : Side} :
    compareSides equivalence tolerance a b = none ↔
      ValuesAgree tolerance a.document.kind b.document.kind a.field a.value b.value := by
  unfold compareSides ValuesAgree
  cases a.field.category with
  | amount => simp [compareAmounts_eq_none_iff]
  | date => simp [compareDates_eq_none_iff]
  | quantity => simp [compareQuantities_eq_none_iff]
  | partyName | goodsDescription | place | reference => simp [compareTexts_eq_none_iff]

/-! ## Two documents -/

theorem fieldDisagreements_eq_nil_iff {equivalence : Equivalence} {tolerance : Option Tolerance} {a b : Entry} :
    fieldDisagreements equivalence tolerance a b = [] ↔
      ∀ field x y, field.mustAgree = true → a.document.stated? field = some x → b.document.stated? field = some y →
        ValuesAgree tolerance a.document.kind b.document.kind field x y := by
  have hall : ∀ field : LogicalField, field ∈ (Named.all : List LogicalField) := by
    intro field
    cases field <;> decide
  simp only [fieldDisagreements, List.filterMap_eq_nil_iff, List.mem_filter, hall, true_and]
  refine forall_congr' fun field => ?_
  cases hx : a.document.stated? field with
  | none => simp [Entry.side?, hx]
  | some x =>
    cases hy : b.document.stated? field with
    | none => simp [Entry.side?, hx, hy]
    | some y => simp [Entry.side?, hx, hy, compareSides_eq_none_iff, DocumentRef.of]

theorem checkBound_eq_none_iff {date bound : Side} :
    checkBound date bound = none ↔
      ∃ d limit, parseDate? date.value = some d ∧ parseDate? bound.value = some limit ∧ d.key ≤ limit.key := by
  unfold checkBound
  cases parseDate? date.value with
  | none => simp
  | some d =>
    cases parseDate? bound.value with
    | none => simp
    | some limit => simp [← not_lt, ← Date.before_iff]

/-- Nothing is reported of dates exactly when each keeps its bound: a date is passed over as reported only after
a report. -/
theorem boundDisagreements_eq_nil_iff : ∀ checks : List (Side × Side),
    boundDisagreements [] checks = [] ↔ ∀ check ∈ checks, checkBound check.1 check.2 = none
  | [] => by simp [boundDisagreements]
  | (date, bound) :: rest => by
    simp only [boundDisagreements, List.forall_mem_cons]
    cases checkBound date bound with
    | none => simp [boundDisagreements_eq_nil_iff rest]
    | some found =>
      obtain ⟨kind, _ | culprit⟩ := found <;> simp

theorem mem_boundedPairs_iff {x y : Entry} {date bound : Side} :
    (date, bound) ∈ boundedPairs x y ↔ ∃ b ∈ dateBounds, x.side? b.1 = some date ∧ y.side? b.2 = some bound := by
  simp only [boundedPairs, List.mem_filterMap]
  refine exists_congr fun b => and_congr_right fun _ => ?_
  cases x.side? b.1 with
  | none => simp
  | some date =>
    cases y.side? b.2 with
    | none => simp
    | some bound => simp

theorem notAfter_iff {x y : Entry} {field bound : LogicalField} :
    x.document.NotAfter y.document field bound ↔
      ∀ date limit, x.side? field = some date → y.side? bound = some limit → checkBound date limit = none := by
  unfold Document.NotAfter
  cases hx : x.document.stated? field with
  | none => simp [Entry.side?, hx]
  | some date =>
    cases hy : y.document.stated? bound with
    | none => simp [Entry.side?, hx, hy]
    | some limit => simp [Entry.side?, hx, hy, checkBound_eq_none_iff]

/-- The dates of an entry keep their bounds in another one exactly when they are within its dates. -/
theorem checkBounds_eq_none_iff {x y : Entry} :
    (∀ check ∈ boundedPairs x y, checkBound check.1 check.2 = none) ↔ x.document.DatesWithin y.document := by
  have hbounds : (∀ check ∈ boundedPairs x y, checkBound check.1 check.2 = none) ↔
      ∀ b ∈ dateBounds, x.document.NotAfter y.document b.1 b.2 := by
    simp only [Prod.forall, mem_boundedPairs_iff, notAfter_iff]
    constructor
    · intro h field bound hb date limit hdate hlimit
      exact h date limit ⟨(field, bound), hb, hdate, hlimit⟩
    · rintro h date limit ⟨b, hb, hdate, hlimit⟩
      exact h b.1 b.2 hb date limit hdate hlimit
  rw [hbounds]
  simp only [dateBounds, List.forall_mem_cons, List.not_mem_nil, false_implies, implies_true, and_true]
  exact ⟨fun h => ⟨h.1, h.2.1, h.2.2⟩, fun h => ⟨h.shipment, h.shipmentExpiry, h.issueExpiry⟩⟩

/-- A pair of documents yields no disagreement exactly when the two are consistent. -/
theorem comparePair_eq_nil_iff {equivalence : Equivalence} {tolerance : Option Tolerance} {a b : Entry} :
    comparePair equivalence tolerance a b = [] ↔ a.document.Consistent tolerance b.document := by
  simp only [comparePair, List.append_eq_nil_iff, fieldDisagreements_eq_nil_iff, boundDisagreements_eq_nil_iff,
    List.forall_mem_append, checkBounds_eq_none_iff]
  exact ⟨fun h => ⟨h.1, h.2.1, h.2.2⟩, fun h => ⟨h.fields, h.dates, h.datesBack⟩⟩

/-! ## The set -/

/-- The pairs of a list are its elements at two places, the earlier first. -/
theorem DocumentSet.mem_pairs_iff {α : Type} {a b : α} : ∀ {l : List α},
    (a, b) ∈ pairs l ↔ ∃ i j : Nat, i < j ∧ l[i]? = some a ∧ l[j]? = some b
  | [] => by simp [pairs]
  | x :: l => by
    simp only [pairs, List.mem_append, List.mem_map, Prod.mk.injEq, mem_pairs_iff (l := l)]
    constructor
    · rintro (⟨y, hy, rfl, rfl⟩ | ⟨i, j, hij, ha, hb⟩)
      · obtain ⟨j, hj⟩ := List.mem_iff_getElem?.1 hy
        exact ⟨0, j + 1, by omega, by simp, by simpa using hj⟩
      · exact ⟨i + 1, j + 1, by omega, by simpa using ha, by simpa using hb⟩
    · rintro ⟨i, j, hij, ha, hb⟩
      obtain ⟨j, rfl⟩ := Nat.exists_eq_add_of_lt (show 0 < j by omega)
      rw [Nat.zero_add, List.getElem?_cons_succ] at hb
      cases i with
      | zero => exact .inl ⟨b, List.mem_of_getElem? hb, by simpa using ha, rfl⟩
      | succ i => exact .inr ⟨i, j, by omega, by simpa using ha, hb⟩

theorem DocumentSet.entries_getElem? {set : DocumentSet} {i : Nat} :
    set.entries[i]? = set.documents[i]?.map (Entry.mk i) := by
  simp [entries, List.getElem?_zipIdx, Function.comp_def]

theorem DocumentSet.compare_eq_nil_iff {set : DocumentSet} {equivalence : Equivalence} :
    set.compare equivalence = [] ↔ set.Consistent := by
  simp only [compare, List.flatMap_eq_nil_iff, Prod.forall, mem_pairs_iff, comparePair_eq_nil_iff, entries_getElem?,
    Option.map_eq_some_iff]
  constructor
  · intro h i j a b hij ha hb
    exact h ⟨i, a⟩ ⟨j, b⟩ ⟨i, j, hij, ⟨a, ha, rfl⟩, ⟨b, hb, rfl⟩⟩
  · rintro h _ _ ⟨i, j, hij, ⟨a, ha, rfl⟩, ⟨b, hb, rfl⟩⟩
    exact h i j a b hij ha hb

/-- A report holds what was found, as discrepancies and as gaps. -/
theorem Report.isClean_ofDisagreements_iff {setId : String} {table : RuleTable} {found : List Disagreement} :
    (ofDisagreements setId table found).isClean = true ↔ found = [] := by
  simp only [isClean, ofDisagreements, Bool.and_eq_true, List.isEmpty_iff, List.filterMap_eq_nil_iff]
  constructor
  · rintro ⟨hnone, hgaps⟩
    by_contra hne
    obtain ⟨d, hd⟩ := List.exists_mem_of_ne_nil found hne
    have hnone := hnone d hd
    have hgap := hgaps d hd
    cases hcase : d.classify setId table with
    | error gap => simp [hcase] at hgap
    | ok discrepancy => simp [hcase, Except.toOption] at hnone
  · rintro rfl
    simp

/-- A report is clean exactly when the documents of its set are consistent, whatever counts as a variant and
whatever the table has rules for. -/
theorem DocumentSet.isClean_report_iff (set : DocumentSet) (equivalence : Equivalence) (table : RuleTable) :
    (set.report equivalence table).isClean = true ↔ set.Consistent := by
  rw [report, Report.isClean_ofDisagreements_iff, compare_eq_nil_iff]

end DocumentaryCredit

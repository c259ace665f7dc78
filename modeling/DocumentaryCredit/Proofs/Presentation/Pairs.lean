/-
What is found about two documents of a set. Every disagreement is between the documents of one pair and on fields of
theirs, so that what is found about two of them is what the comparison of this pair alone yields, in whichever order the
two stand in the set.
-/
import DocumentaryCredit.Presentation.Comparison
import DocumentaryCredit.Proofs.Presentation.Consistency
import Mathlib.Data.List.Nodup

namespace DocumentaryCredit

namespace Disagreement

/-- The disagreement is between the documents at two places of a set. -/
def IsBetween (d : Disagreement) (i j : Nat) : Prop :=
  d.first.document.index = i ∧ d.second.document.index = j ∨ d.first.document.index = j ∧ d.second.document.index = i

/-- The disagreement concerns a field. -/
def IsOn (d : Disagreement) (field : LogicalField) : Prop := d.first.field = field ∨ d.second.field = field

instance (d : Disagreement) (i j : Nat) : Decidable (d.IsBetween i j) := by
  unfold IsBetween; infer_instance

instance (d : Disagreement) (field : LogicalField) : Decidable (d.IsOn field) := by
  unfold IsOn; infer_instance

theorem isBetween_comm {d : Disagreement} {i j : Nat} : d.IsBetween i j ↔ d.IsBetween j i := or_comm

end Disagreement

/-- What is found about the documents at two places on a field. -/
def DocumentSet.findings (set : DocumentSet) (equivalence : Equivalence) (field : LogicalField) (i j : Nat) :
    List Disagreement :=
  (set.compare equivalence).filter fun d => d.IsBetween i j ∧ d.IsOn field

/-! ## One pair -/

section Pair

variable {equivalence : Equivalence} {tolerance : Option Tolerance} {a b : Entry} {field : LogicalField}

theorem Entry.field_of_side? {e : Entry} {s : Side} (h : e.side? field = some s) :
    s.field = field ∧ s.document = DocumentRef.of e.index e.document := by
  obtain ⟨value, -, rfl⟩ := Option.map_eq_some_iff.1 h
  exact ⟨rfl, rfl⟩

theorem sides_of_compareSides {x y : Side} {d : Disagreement} (h : compareSides equivalence tolerance x y = some d) :
    d.first = x ∧ d.second = y := by
  unfold compareSides at h
  split at h
  all_goals
    obtain ⟨kind, -, rfl⟩ := Option.map_eq_some_iff.1 h
    exact ⟨rfl, rfl⟩

/-- What is found about dates and their bounds is on the two sides of a check, and never labelled. -/
theorem exists_of_mem_boundDisagreements {d : Disagreement} : ∀ {checks : List (Side × Side)} {reported : List Side},
    d ∈ boundDisagreements reported checks → ∃ check ∈ checks, ∃ kind, d = ⟨kind, check.1, check.2, false⟩
  | [], _, h => by cases h
  | (date, bound) :: rest, _, h => by
    have hlater : ∀ {reported}, d ∈ boundDisagreements reported rest →
        ∃ check ∈ (date, bound) :: rest, ∃ kind, d = ⟨kind, check.1, check.2, false⟩ := by
      intro reported hrest
      obtain ⟨check, hcheck, hd⟩ := exists_of_mem_boundDisagreements hrest
      exact ⟨check, List.mem_cons_of_mem _ hcheck, hd⟩
    have hnow : ∀ {kind reported}, d ∈ ⟨kind, date, bound, false⟩ :: boundDisagreements reported rest →
        ∃ check ∈ (date, bound) :: rest, ∃ kind, d = ⟨kind, check.1, check.2, false⟩ := by
      intro kind reported hmem
      rcases List.mem_cons.1 hmem with rfl | hrest
      · exact ⟨(date, bound), List.mem_cons_self, kind, rfl⟩
      · exact hlater hrest
    unfold boundDisagreements at h
    split at h
    · exact hlater h
    · exact hnow h
    · split at h
      · exact hlater h
      · exact hnow h

theorem mem_of_mem_boundDisagreements {d : Disagreement} {checks : List (Side × Side)} {reported : List Side}
    (h : d ∈ boundDisagreements reported checks) : (d.first, d.second) ∈ checks := by
  obtain ⟨check, hcheck, kind, rfl⟩ := exists_of_mem_boundDisagreements h
  exact hcheck

theorem isVariant_of_mem_boundDisagreements {d : Disagreement} {checks : List (Side × Side)} {reported : List Side}
    (h : d ∈ boundDisagreements reported checks) : d.isVariant = false := by
  obtain ⟨check, -, kind, rfl⟩ := exists_of_mem_boundDisagreements h
  rfl

theorem exists_of_mem_boundedPairs {date bound : Side} (h : (date, bound) ∈ boundedPairs a b) :
    (date.document.index = a.index ∧ bound.document.index = b.index) ∧
      ∃ bounds ∈ dateBounds, date.field = bounds.1 ∧ bound.field = bounds.2 := by
  obtain ⟨bounds, hbounds, hdate, hbound⟩ := mem_boundedPairs_iff.1 h
  obtain ⟨hfield, hdocument⟩ := Entry.field_of_side? hdate
  obtain ⟨hfield', hdocument'⟩ := Entry.field_of_side? hbound
  exact ⟨⟨by rw [hdocument]; rfl, by rw [hdocument']; rfl⟩, bounds, hbounds, hfield, hfield'⟩

/-- What the dates of a pair disagree on is a date of the one and a bound of the other. -/
theorem exists_of_mem_bounds {d : Disagreement}
    (h : d ∈ boundDisagreements [] (boundedPairs a b ++ boundedPairs b a)) :
    d.IsBetween a.index b.index ∧ ∃ bounds ∈ dateBounds, d.first.field = bounds.1 ∧ d.second.field = bounds.2 := by
  rcases List.mem_append.1 (mem_of_mem_boundDisagreements h) with h | h
  · exact (exists_of_mem_boundedPairs h).imp_left .inl
  · exact (exists_of_mem_boundedPairs h).imp_left .inr

/-- What a pair disagrees on a field, where both state it. -/
def disagreement? (equivalence : Equivalence) (tolerance : Option Tolerance) (a b : Entry) (field : LogicalField) :
    Option Disagreement :=
  match a.side? field, b.side? field with
  | some x, some y => compareSides equivalence tolerance x y
  | _, _ => none

theorem sides_of_disagreement? {d : Disagreement} (h : disagreement? equivalence tolerance a b field = some d) :
    a.side? field = some d.first ∧ b.side? field = some d.second := by
  unfold disagreement? at h
  split at h
  · next hx hy =>
    obtain ⟨rfl, rfl⟩ := sides_of_compareSides h
    exact ⟨hx, hy⟩
  · cases h

theorem isBetween_of_mem_comparePair {d : Disagreement} (h : d ∈ comparePair equivalence tolerance a b) :
    d.IsBetween a.index b.index := by
  rcases List.mem_append.1 h with h | h
  · obtain ⟨field, -, hfield⟩ := List.mem_filterMap.1 h
    obtain ⟨hfirst, hsecond⟩ := sides_of_disagreement? hfield
    exact .inl ⟨by rw [(Entry.field_of_side? hfirst).2]; rfl, by rw [(Entry.field_of_side? hsecond).2]; rfl⟩
  · exact (exists_of_mem_bounds h).1

theorem filterMap_ite_eq {α : Type} (found : Option α) (hmust : field.mustAgree = true) :
    ((Named.all : List LogicalField).filter (·.mustAgree)).filterMap (fun f => if f = field then found else none) =
      found.toList := by
  cases found <;> cases field <;> first | rfl | cases hmust

/-- What a pair finds on a field that is not checked against bounds is what its comparison on this field yields. -/
theorem filter_isOn_comparePair (hmust : field.mustAgree = true)
    (hfree : ∀ bounds ∈ dateBounds, bounds.1 ≠ field ∧ bounds.2 ≠ field) :
    (comparePair equivalence tolerance a b).filter (fun d => d.IsOn field) =
      (disagreement? equivalence tolerance a b field).toList := by
  have hbounds : (boundDisagreements [] (boundedPairs a b ++ boundedPairs b a)).filter (fun d => d.IsOn field) = [] := by
    rw [List.filter_eq_nil_iff]
    intro d hd
    obtain ⟨-, bounds, hmem, hfirst, hsecond⟩ := exists_of_mem_bounds hd
    simpa [Disagreement.IsOn, hfirst, hsecond] using hfree bounds hmem
  have hfield : ∀ f, (disagreement? equivalence tolerance a b f).filter (fun d => d.IsOn field) =
      if f = field then disagreement? equivalence tolerance a b field else none := by
    intro f
    cases hd : disagreement? equivalence tolerance a b f with
    | none =>
      split
      · next heq => rw [← heq, hd, Option.filter_none]
      · rfl
    | some d =>
      obtain ⟨hfirst, hsecond⟩ := sides_of_disagreement? hd
      have hon : d.IsOn field ↔ f = field := by
        rw [Disagreement.IsOn, (Entry.field_of_side? hfirst).1, (Entry.field_of_side? hsecond).1, or_self]
      split
      · next heq => rw [Option.filter_some, if_pos (by simpa using hon.2 heq), ← heq, hd]
      · next hne => rw [Option.filter_some, if_neg (by simpa using fun h => hne (hon.1 h))]
  have hfields : fieldDisagreements equivalence tolerance a b =
      ((Named.all : List LogicalField).filter (·.mustAgree)).filterMap (disagreement? equivalence tolerance a b) := rfl
  rw [comparePair, List.filter_append, hbounds, List.append_nil, hfields, List.filter_filterMap]
  simp only [hfield]
  exact filterMap_ite_eq _ hmust

end Pair

/-! ## The pairs of a set -/

/-- Where one element at most passes, an element that passes is the one that is found. -/
theorem find?_eq_some_of_countP_le_one {α : Type} {p : α → Bool} {l : List α} {a : α} (hone : l.countP p ≤ 1)
    (ha : a ∈ l) (hp : p a = true) : l.find? p = some a := by
  have hmem : a ∈ l.filter p := List.mem_filter.2 ⟨ha, hp⟩
  rw [List.countP_eq_length_filter] at hone
  obtain ⟨only, honly⟩ := List.length_eq_one_iff.1 (hone.antisymm (List.length_pos_of_mem hmem))
  rw [honly, List.mem_singleton] at hmem
  rw [← List.head?_filter, honly, hmem]
  rfl

/-- Where all elements but one yield nothing, a list yields what this one does. -/
theorem flatMap_eq_of_nodup {α β : Type} {f : α → List β} {a : α} : ∀ {l : List α}, l.Nodup → a ∈ l →
    (∀ b ∈ l, b ≠ a → f b = []) → l.flatMap f = f a
  | [], _, ha, _ => by cases ha
  | c :: l, h, ha, hother => by
    obtain ⟨hc, hl⟩ := List.nodup_cons.1 h
    rw [List.flatMap_cons]
    rcases List.mem_cons.1 ha with rfl | ha
    · have hrest : l.flatMap f = [] := List.flatMap_eq_nil_iff.2 fun b hb =>
        hother b (List.mem_cons_of_mem _ hb) (ne_of_mem_of_not_mem hb hc)
      rw [hrest, List.append_nil]
    · rw [hother c (by simp) (ne_of_mem_of_not_mem ha hc).symm, List.nil_append]
      exact flatMap_eq_of_nodup hl ha fun b hb => hother b (List.mem_cons_of_mem _ hb)

namespace DocumentSet

variable {set : DocumentSet} {equivalence : Equivalence} {field : LogicalField} {i j : Nat} {a b : Document}

theorem mem_pairs_entries_iff {x y : Entry} :
    (x, y) ∈ pairs set.entries ↔ x.index < y.index ∧ set.documents[x.index]? = some x.document ∧
      set.documents[y.index]? = some y.document := by
  simp only [mem_pairs_iff, entries_getElem?, Option.map_eq_some_iff]
  constructor
  · rintro ⟨i, j, hij, ⟨a, ha, rfl⟩, b, hb, rfl⟩
    exact ⟨hij, ha, hb⟩
  · rintro ⟨hij, ha, hb⟩
    exact ⟨_, _, hij, ⟨_, ha, rfl⟩, _, hb, rfl⟩

theorem nodup_pairs {α : Type} : ∀ {l : List α}, l.Nodup → (pairs l).Nodup
  | [], _ => List.nodup_nil
  | a :: l, h => by
    obtain ⟨ha, hl⟩ := List.nodup_cons.1 h
    have hfirst : (l.map fun b => (a, b)).Nodup := hl.map fun b c hbc => (Prod.mk.inj hbc).2
    refine List.nodup_append'.2 ⟨hfirst, nodup_pairs hl, fun p hp hp' => ?_⟩
    obtain ⟨b, -, rfl⟩ := List.mem_map.1 hp
    obtain ⟨i, j, -, hi, -⟩ := mem_pairs_iff.1 hp'
    exact ha (List.mem_of_getElem? hi)

theorem map_index_entries : set.entries.map Entry.index = List.range set.documents.length := by
  simp [entries, Function.comp_def, List.range_eq_range']

theorem nodup_entries : set.entries.Nodup :=
  List.Nodup.of_map Entry.index (map_index_entries ▸ List.nodup_range)

theorem findings_comm : set.findings equivalence field i j = set.findings equivalence field j i := by
  simp only [findings, Disagreement.isBetween_comm]

theorem eq_of_isBetween {d : Disagreement} {x y : Entry} (hij : i < j) (ha : set.documents[i]? = some a)
    (hb : set.documents[j]? = some b) (hmem : (x, y) ∈ pairs set.entries) (hd : d.IsBetween x.index y.index)
    (hbetween : d.IsBetween i j) : (x, y) = ((⟨i, a⟩, ⟨j, b⟩) : Entry × Entry) := by
  obtain ⟨hxy, hx, hy⟩ := mem_pairs_entries_iff.1 hmem
  obtain ⟨x, dx⟩ := x
  obtain ⟨y, dy⟩ := y
  unfold Disagreement.IsBetween at hd hbetween
  obtain ⟨rfl, rfl⟩ : x = i ∧ y = j := by
    dsimp only at hxy hd
    omega
  rw [ha] at hx
  rw [hb] at hy
  cases hx
  cases hy
  rfl

/-- What is found between two documents is what their pair yields. -/
theorem filter_isBetween_compare (hij : i < j) (ha : set.documents[i]? = some a) (hb : set.documents[j]? = some b) :
    (set.compare equivalence).filter (fun d => d.IsBetween i j) =
      comparePair equivalence set.tolerance? ⟨i, a⟩ ⟨j, b⟩ := by
  have hmem : ((⟨i, a⟩, ⟨j, b⟩) : Entry × Entry) ∈ pairs set.entries := mem_pairs_entries_iff.2 ⟨hij, ha, hb⟩
  rw [compare, List.filter_flatMap, flatMap_eq_of_nodup (nodup_pairs set.nodup_entries) hmem]
  · exact List.filter_eq_self.2 fun d hd => decide_eq_true (isBetween_of_mem_comparePair hd)
  · intro p hp hne
    rw [List.filter_eq_nil_iff]
    intro d hd hfound
    exact hne (eq_of_isBetween hij ha hb hp (isBetween_of_mem_comparePair hd) (of_decide_eq_true hfound))

/-- What is found about two documents on a field is what their pair yields on it. -/
theorem findings_eq (hij : i < j) (ha : set.documents[i]? = some a) (hb : set.documents[j]? = some b) :
    set.findings equivalence field i j =
      (comparePair equivalence set.tolerance? ⟨i, a⟩ ⟨j, b⟩).filter (fun d => d.IsOn field) := by
  rw [← filter_isBetween_compare hij ha hb, List.filter_filter, findings]
  exact List.filter_congr fun d _ => by rw [Bool.decide_and, Bool.and_comm]

end DocumentSet

end DocumentaryCredit

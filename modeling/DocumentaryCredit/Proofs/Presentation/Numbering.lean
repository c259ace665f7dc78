/-
How a report numbers what it lists. It lists every disagreement that the comparison finds once and in order, as a
discrepancy where the table has a rule for it and as a gap where it has none. The comparison looks at no two fields of
two documents twice, and the text that a discrepancy is numbered by can be read back from its end, whatever its set and
its article are called; so the discrepancies of a report are numbered by different texts, and have one number only where
the hashes of two different texts begin alike (`DocumentSet.report_account`).
-/
import DocumentaryCredit.Presentation.Report
import DocumentaryCredit.Proofs.Presentation.Pairs
import DocumentaryCredit.Proofs.Text
import Mathlib.Data.Sym.Sym2

namespace DocumentaryCredit

/-! ## Reading a number's text back -/

/-- What stands before and behind the last of a separator. -/
theorem eq_of_append_separator {α : Type} {separator : α} {front front' behind behind' : List α}
    (h : separator ∉ behind) (h' : separator ∉ behind')
    (heq : front ++ separator :: behind = front' ++ separator :: behind') : front = front' ∧ behind = behind' := by
  rcases List.append_eq_append_iff.1 heq with ⟨between, rfl, hbehind⟩ | ⟨between, rfl, hbehind⟩
  · cases between with
    | nil => exact ⟨(List.append_nil _).symm, (List.cons.inj hbehind).2⟩
    | cons c between => exact absurd (by simp [(List.cons.inj hbehind).2]) h
  · cases between with
    | nil => exact ⟨List.append_nil _, (List.cons.inj hbehind).2.symm⟩
    | cons c between => exact absurd (by simp [(List.cons.inj hbehind).2]) h'

theorem LogicalField.not_mem_name (field : LogicalField) : '|' ∉ (Named.name field).toList := by
  cases field <;> decide

theorem LogicalField.eq_of_name_eq {field field' : LogicalField} (h : Named.name field = Named.name field') :
    field = field' := by
  have hread : ∀ f : LogicalField, Named.read? (Named.name f) = some f := fun f => by cases f <;> decide
  exact Option.some.inj ((hread field).symm.trans ((congrArg Named.read? h).trans (hread field')))

theorem not_mem_toString (n : Nat) : '|' ∉ (toString n).toList := by
  rw [Nat.toString_eq_repr, Nat.toList_repr]
  exact fun h => absurd (Text.isDigit_of_mem_toDigits h) (by decide)

theorem eq_of_toString_eq {m n : Nat} (h : toString m = toString n) : m = n := by
  rw [Nat.toString_eq_repr, Nat.toString_eq_repr, ← String.toList_inj, Nat.toList_repr, Nat.toList_repr] at h
  rw [← Text.digitsValue_toDigits m, h, Text.digitsValue_toDigits]

/-- A field of the document at a place. -/
def Side.place (s : Side) : LogicalField × Nat := (s.field, s.document.index)

/-- How the text of a number names a side. -/
def Side.placeChars (s : Side) : List Char :=
  '|' :: ((Named.name s.field).toList ++ '|' :: (toString s.document.index).toList)

/-- The last side that a text names is read back from its end. -/
theorem Side.eq_of_append_placeChars {front front' : List Char} {s s' : Side}
    (h : front ++ s.placeChars = front' ++ s'.placeChars) : front = front' ∧ s.place = s'.place := by
  unfold placeChars at h
  rw [← List.cons_append, ← List.cons_append, ← List.append_assoc, ← List.append_assoc] at h
  obtain ⟨hfront, hindex⟩ := eq_of_append_separator (not_mem_toString _) (not_mem_toString _) h
  obtain ⟨hfront, hfield⟩ := eq_of_append_separator s.field.not_mem_name s'.field.not_mem_name hfront
  refine ⟨hfront, Prod.ext ?_ ?_⟩
  · exact LogicalField.eq_of_name_eq (String.toList_inj.1 hfield)
  · exact eq_of_toString_eq (String.toList_inj.1 hindex)

namespace Disagreement

/-- The fields and places of the two sides, in no order. -/
def places (d : Disagreement) : Sym2 (LogicalField × Nat) := s(d.first.place, d.second.place)

theorem places_orderedSides (d : Disagreement) : s(d.orderedSides.1.place, d.orderedSides.2.place) = d.places := by
  unfold orderedSides
  dsimp only
  split
  · rfl
  · exact Sym2.eq_swap

theorem toList_identity (d : Disagreement) (setId reference : String) : (d.identity setId reference).toList =
    setId.toList ++ '|' :: reference.toList ++ d.orderedSides.1.placeChars ++ d.orderedSides.2.placeChars := by
  simp [identity, Side.placeChars]

/-- Disagreements that are numbered by one text are on the same fields of documents at the same places. -/
theorem places_eq_of_identity_eq {d d' : Disagreement} {setId setId' reference reference' : String}
    (h : d.identity setId reference = d'.identity setId' reference') : d.places = d'.places := by
  rw [← String.toList_inj, toList_identity, toList_identity] at h
  obtain ⟨h, hlast⟩ := Side.eq_of_append_placeChars h
  obtain ⟨-, hfirst⟩ := Side.eq_of_append_placeChars h
  rw [← d.places_orderedSides, ← d'.places_orderedSides, hfirst, hlast]

end Disagreement

/-! ## What a comparison looks at -/

/-- The fields of two documents that are compared: those that must agree, and dates with their bounds, either way. -/
def comparedFields : List (LogicalField × LogicalField) :=
  ((Named.all : List LogicalField).filter (·.mustAgree)).map (fun field => (field, field)) ++
    (dateBounds ++ dateBounds.map Prod.swap)

theorem nodup_comparedFields : comparedFields.Nodup := by decide

/-- Fields of the documents at two places. -/
def placesOf (i j : Nat) (fields : LogicalField × LogicalField) : Sym2 (LogicalField × Nat) :=
  s((fields.1, i), (fields.2, j))

theorem placesOf_swap (i j : Nat) (fields : LogicalField × LogicalField) :
    placesOf i j fields.swap = placesOf j i fields :=
  Sym2.eq_swap

theorem placesOf_injective {i j : Nat} (h : i ≠ j) : Function.Injective (placesOf i j) := by
  intro fields fields' heq
  rcases Sym2.eq_iff.1 heq with ⟨hfirst, hsecond⟩ | ⟨hfirst, -⟩
  · exact Prod.ext (Prod.mk.inj hfirst).1 (Prod.mk.inj hsecond).1
  · exact absurd (Prod.mk.inj hfirst).2 h

/-- The documents that two fields are of. -/
theorem map_snd_placesOf (i j : Nat) (fields : LogicalField × LogicalField) :
    (placesOf i j fields).map Prod.snd = s(i, j) := rfl

/-- What a list yields, in its order, element by element. -/
theorem map_filterMap_sublist {α β γ : Type} {f : α → Option β} {g : β → γ} {k : α → γ}
    (h : ∀ a b, f a = some b → g b = k a) : ∀ l : List α, ((l.filterMap f).map g).Sublist (l.map k)
  | [] => .slnil
  | a :: l => by
    rw [List.map_cons]
    cases hf : f a with
    | none =>
      rw [List.filterMap_cons_none hf]
      exact (map_filterMap_sublist h l).cons _
    | some b =>
      rw [List.filterMap_cons_some hf, List.map_cons, h a b hf]
      exact (map_filterMap_sublist h l).cons_cons _

section Pair

variable {equivalence : Equivalence} {tolerance : Option Tolerance} {a b : Entry}

theorem Entry.place_of_side? {e : Entry} {field : LogicalField} {s : Side} (h : e.side? field = some s) :
    s.place = (field, e.index) := by
  obtain ⟨hfield, hdocument⟩ := field_of_side? h
  rw [Side.place, hfield, hdocument]
  rfl

/-- Each check yields one disagreement at most. -/
theorem map_sides_boundDisagreements_sublist : ∀ (checks : List (Side × Side)) (reported : List Side),
    ((boundDisagreements reported checks).map fun d => (d.first, d.second)).Sublist checks
  | [], _ => .slnil
  | (date, bound) :: rest, reported => by
    unfold boundDisagreements
    split
    · exact (map_sides_boundDisagreements_sublist rest _).cons _
    · exact (map_sides_boundDisagreements_sublist rest _).cons_cons _
    · split
      · exact (map_sides_boundDisagreements_sublist rest _).cons _
      · exact (map_sides_boundDisagreements_sublist rest _).cons_cons _

theorem map_places_boundedPairs_sublist (a b : Entry) :
    ((boundedPairs a b).map fun check => s(check.1.place, check.2.place)).Sublist
      (dateBounds.map (placesOf a.index b.index)) := by
  refine map_filterMap_sublist (fun bounds check hcheck => ?_) _
  dsimp only at hcheck
  split at hcheck
  · next date limit hdate hlimit =>
    cases hcheck
    rw [Entry.place_of_side? hdate, Entry.place_of_side? hlimit]
    rfl
  · cases hcheck

/-- What a pair disagrees on are fields that are compared, each once at most and in their order. -/
theorem map_places_comparePair_sublist :
    ((comparePair equivalence tolerance a b).map Disagreement.places).Sublist
      (comparedFields.map (placesOf a.index b.index)) := by
  have hfields : ((fieldDisagreements equivalence tolerance a b).map Disagreement.places).Sublist
      (((Named.all : List LogicalField).filter (·.mustAgree)).map fun field =>
        placesOf a.index b.index (field, field)) := by
    refine map_filterMap_sublist (fun field d hd => ?_) _
    obtain ⟨hfirst, hsecond⟩ := sides_of_disagreement? hd
    rw [Disagreement.places, Entry.place_of_side? hfirst, Entry.place_of_side? hsecond]
    rfl
  have hbounds : ((boundDisagreements [] (boundedPairs a b ++ boundedPairs b a)).map Disagreement.places).Sublist
      (dateBounds.map (placesOf a.index b.index) ++ dateBounds.map (placesOf b.index a.index)) := by
    have hchecks := (map_sides_boundDisagreements_sublist (boundedPairs a b ++ boundedPairs b a) []).map
      fun check => s(check.1.place, check.2.place)
    rw [List.map_map, List.map_append] at hchecks
    exact hchecks.trans ((map_places_boundedPairs_sublist a b).append (map_places_boundedPairs_sublist b a))
  rw [comparePair, List.map_append, comparedFields, List.map_append, List.map_append, List.map_map, List.map_map]
  refine hfields.append ?_
  have hswap : placesOf a.index b.index ∘ Prod.swap = placesOf b.index a.index := funext (placesOf_swap _ _)
  rwa [hswap]

end Pair

namespace DocumentSet

/-- A pair of a set is known by the places of its documents. -/
theorem eq_of_places_eq {set : DocumentSet} {p q : Entry × Entry} (hp : p ∈ pairs set.entries)
    (hq : q ∈ pairs set.entries) (h : s(p.1.index, p.2.index) = s(q.1.index, q.2.index)) : p = q := by
  obtain ⟨⟨i, a⟩, ⟨j, b⟩⟩ := p
  obtain ⟨⟨i', a'⟩, ⟨j', b'⟩⟩ := q
  obtain ⟨hlt, ha, hb⟩ := mem_pairs_entries_iff.1 hp
  obtain ⟨hlt', ha', hb'⟩ := mem_pairs_entries_iff.1 hq
  dsimp only at h hlt ha hb hlt' ha' hb'
  obtain ⟨rfl, rfl⟩ : i = i' ∧ j = j' := by
    rcases Sym2.eq_iff.1 h with h | ⟨rfl, rfl⟩
    · exact h
    · exact absurd hlt' (Nat.lt_asymm hlt)
  obtain rfl := Option.some.inj (ha.symm.trans ha')
  obtain rfl := Option.some.inj (hb.symm.trans hb')
  rfl

/-- No two disagreements of a set are on the same fields of the same documents. -/
theorem nodup_places_compare (set : DocumentSet) (equivalence : Equivalence) :
    ((set.compare equivalence).map Disagreement.places).Nodup := by
  have hsublist : ((set.compare equivalence).map Disagreement.places).Sublist
      ((pairs set.entries).flatMap fun p => comparedFields.map (placesOf p.1.index p.2.index)) := by
    rw [compare, List.map_flatMap]
    exact List.Sublist.flatMap_right _ fun p _ => map_places_comparePair_sublist
  refine hsublist.nodup (List.nodup_flatMap.2 ⟨fun p hp => ?_, ?_⟩)
  · have hlt := (mem_pairs_entries_iff.1 hp).1
    exact nodup_comparedFields.map (placesOf_injective hlt.ne)
  · refine (nodup_pairs set.nodup_entries).pairwise_of_forall_ne fun p hp q hq hne places hmem hmem' => hne ?_
    obtain ⟨fields, -, rfl⟩ := List.mem_map.1 hmem
    obtain ⟨fields', -, heq⟩ := List.mem_map.1 hmem'
    have hsnd := congrArg (Sym2.map Prod.snd) heq
    rw [map_snd_placesOf, map_snd_placesOf] at hsnd
    exact eq_of_places_eq hp hq hsnd.symm

end DocumentSet

/-! ## Reports -/

/-- Judgements, sorted into discrepancies and gaps: each goes into one of the two lists, in its order. -/
inductive SortedInto : List (Except Gap Discrepancy) → List Discrepancy → List Gap → Prop where
  | nil : SortedInto [] [] []
  | discrepancy {rest : List (Except Gap Discrepancy)} {discrepancies : List Discrepancy} {gaps : List Gap}
      (j : Discrepancy) (h : SortedInto rest discrepancies gaps) : SortedInto (.ok j :: rest) (j :: discrepancies) gaps
  | gap {rest : List (Except Gap Discrepancy)} {discrepancies : List Discrepancy} {gaps : List Gap}
      (g : Gap) (h : SortedInto rest discrepancies gaps) : SortedInto (.error g :: rest) discrepancies (g :: gaps)

/-- A report sorts the judgements of the disagreements that it is made of. -/
theorem Report.sortedInto_ofDisagreements (setId : String) (table : RuleTable) : ∀ found : List Disagreement,
    SortedInto (found.map (·.classify setId table)) (ofDisagreements setId table found).discrepancies
      (ofDisagreements setId table found).gaps
  | [] => .nil
  | d :: found => by
    have ih := sortedInto_ofDisagreements setId table found
    simp only [ofDisagreements, List.map_cons] at ih ⊢
    cases hd : d.classify setId table with
    | ok j =>
      rw [List.filterMap_cons_some (by rw [hd]; rfl), List.filterMap_cons_none (by rw [hd])]
      exact .discrepancy j ih
    | error g =>
      rw [List.filterMap_cons_none (by rw [hd]; rfl), List.filterMap_cons_some (by rw [hd])]
      exact .gap g ih

/-- The text that a disagreement is numbered by in the report on a set, where the table has a rule for it. -/
def Disagreement.numberedBy? (d : Disagreement) (setId : String) (table : RuleTable) : Option String :=
  (table.get? d.category).map fun rule => d.identity setId rule.reference

theorem Disagreement.classify_eq_error_iff (d : Disagreement) (setId : String) (table : RuleTable) :
    (∃ gap, d.classify setId table = .error gap) ↔ table.get? d.category = none := by
  unfold classify
  cases table.get? d.category <;> simp

theorem Disagreement.id_classify (d : Disagreement) (setId : String) (table : RuleTable) :
    (d.classify setId table).toOption.map Discrepancy.id = (d.numberedBy? setId table).map discrepancyId := by
  unfold classify numberedBy?
  cases table.get? d.category <;> rfl

namespace DocumentSet

/-- The texts that the discrepancies of a report are numbered by. -/
def numberedBy (set : DocumentSet) (equivalence : Equivalence) (table : RuleTable) : List String :=
  (set.compare equivalence).filterMap fun d => d.numberedBy? set.id table

theorem nodup_numberedBy (set : DocumentSet) (equivalence : Equivalence) (table : RuleTable) :
    (set.numberedBy equivalence table).Nodup := by
  refine List.pairwise_filterMap.2 ((List.pairwise_map.1 (set.nodup_places_compare equivalence)).imp ?_)
  intro d d' hne text htext text' htext' heq
  obtain ⟨rule, -, rfl⟩ := Option.map_eq_some_iff.1 htext
  obtain ⟨rule', -, rfl⟩ := Option.map_eq_some_iff.1 htext'
  exact hne (Disagreement.places_eq_of_identity_eq heq)

/-- **A report lists every disagreement once, and numbers no two of them by one text.** Whatever the set and the table,
the discrepancies and the gaps of a report are together the judgements of what the comparison finds, each once and in
order; a gap is what the table has no rule for. A discrepancy has the first sixteen digits of the SHA-256 hash of a text
for its number, and the texts of a report are all different, also as bytes, whatever characters the name of the set and
those of the articles contain. -/
theorem report_account (set : DocumentSet) (equivalence : Equivalence) (table : RuleTable) :
    SortedInto ((set.compare equivalence).map (·.classify set.id table)) (set.report equivalence table).discrepancies
      (set.report equivalence table).gaps ∧
    (∀ d : Disagreement, (∃ gap, d.classify set.id table = .error gap) ↔ table.get? d.category = none) ∧
    (set.report equivalence table).discrepancies.map (·.id) = (set.numberedBy equivalence table).map (fun text =>
      String.ofList ((Sha256.hexHash (Text.toBytes text)).toList.take 16)) ∧
    ((set.numberedBy equivalence table).map Text.toBytes).Nodup := by
  refine ⟨Report.sortedInto_ofDisagreements set.id table _, fun d => d.classify_eq_error_iff set.id table, ?_, ?_⟩
  · simp only [report, Report.ofDisagreements, numberedBy, List.map_filterMap, Disagreement.id_classify]
    rfl
  · exact (set.nodup_numberedBy equivalence table).map Text.toBytes_injective

end DocumentSet

end DocumentaryCredit

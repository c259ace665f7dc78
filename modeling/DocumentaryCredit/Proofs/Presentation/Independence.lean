/-
Two documents are compared on their own. The place of a document in its set is only its number, and where the set has
one credit at most, the tolerance that the amounts of a pair are judged by is stated by a document of this pair. So what
is found in a set is what each two of its documents yield by themselves (`DocumentSet.compare_eq_flatMap_only`), and
further documents leave it as it was.
-/
import DocumentaryCredit.Proofs.Presentation.Renumbering
import Mathlib.Data.List.FinRange
import Mathlib.Data.List.Flatten
import Mathlib.Data.List.InsertIdx
import Mathlib.Data.List.NodupEquivFin

namespace DocumentaryCredit

/-! ## The tolerance -/

section Tolerance

variable {equivalence : Equivalence} {tolerance tolerance' : Option Tolerance} {a b : Entry}

/-- Amounts of which neither or both are the credit's are judged by no tolerance. -/
theorem compareAmounts_of_isCredit_eq {x y : Side} (h : x.document.kind.isCredit = y.document.kind.isCredit) :
    compareAmounts tolerance x y = compareAmounts tolerance' x y := by
  unfold compareAmounts
  rw [h, bne_self_eq_false]
  rfl

/-- A pair is judged by a tolerance only where one of its documents is a credit and the other is not. -/
theorem comparePair_congr (h : a.document.kind.isCredit ≠ b.document.kind.isCredit → tolerance = tolerance') :
    comparePair equivalence tolerance a b = comparePair equivalence tolerance' a b := by
  by_cases hcredit : a.document.kind.isCredit = b.document.kind.isCredit
  · refine congrArg (· ++ _) (List.filterMap_congr fun field _ => ?_)
    cases hx : a.side? field with
    | none => rfl
    | some x =>
      cases hy : b.side? field with
      | none => rfl
      | some y =>
        have hkinds : x.document.kind.isCredit = y.document.kind.isCredit := by
          rw [(Entry.field_of_side? hx).2, (Entry.field_of_side? hy).2]
          exact hcredit
        -- The tolerance bears on nothing but the amounts.
        have hamounts : compareAmounts tolerance x y = compareAmounts tolerance' x y :=
          compareAmounts_of_isCredit_eq hkinds
        simp only [compareSides, hamounts]
  · rw [h hcredit]

theorem DocumentSet.tolerance?_of_mem {set : DocumentSet} {credit : Document}
    (hone : set.documents.countP (·.kind.isCredit) ≤ 1) (hmem : credit ∈ set.documents)
    (hcredit : credit.kind.isCredit = true) : set.tolerance? = credit.tolerance?.bind parseTolerance? := by
  rw [tolerance?, find?_eq_some_of_countP_le_one hone hmem hcredit, Option.bind_some]

/-- Two sets with one credit at most judge a pair that both hold alike. -/
theorem DocumentSet.comparePair_tolerance? {set set' : DocumentSet}
    (hone : set.documents.countP (·.kind.isCredit) ≤ 1) (hone' : set'.documents.countP (·.kind.isCredit) ≤ 1)
    (ha : a.document ∈ set.documents) (hb : b.document ∈ set.documents)
    (ha' : a.document ∈ set'.documents) (hb' : b.document ∈ set'.documents) :
    comparePair equivalence set.tolerance? a b = comparePair equivalence set'.tolerance? a b := by
  refine comparePair_congr fun hne => ?_
  cases hcredit : a.document.kind.isCredit with
  | true => rw [tolerance?_of_mem hone ha hcredit, tolerance?_of_mem hone' ha' hcredit]
  | false =>
    have hcredit : b.document.kind.isCredit = true := by simpa [hcredit] using hne.symm
    rw [tolerance?_of_mem hone hb hcredit, tolerance?_of_mem hone' hb' hcredit]

end Tolerance

/-! ## The pairs of a set -/

namespace DocumentSet

theorem pairs_map {α β : Type} (g : α → β) : ∀ l : List α, pairs (l.map g) = (pairs l).map (Prod.map g g)
  | [] => rfl
  | a :: l => by
    simp only [pairs, List.map_cons, List.map_append, List.map_map, pairs_map g l]
    rfl

theorem pairs_sublist {α : Type} {l l' : List α} (h : l.Sublist l') : (pairs l).Sublist (pairs l') := by
  induction h with
  | slnil => exact .slnil
  | cons a _ ih => exact ih.trans (List.sublist_append_right _ _)
  | cons_cons a h ih => exact (h.map _).append ih

theorem sublist_of_mem_pairs {α : Type} {a b : α} : ∀ {l : List α}, (a, b) ∈ pairs l → [a, b].Sublist l
  | [], h => by cases h
  | c :: l, h => by
    rcases List.mem_append.1 h with h | h
    · obtain ⟨d, hd, heq⟩ := List.mem_map.1 h
      obtain ⟨rfl, rfl⟩ := Prod.mk.inj heq
      exact (List.singleton_sublist.2 hd).cons_cons c
    · exact (sublist_of_mem_pairs h).cons c

/-- The pairs of an ascending list, in lexicographic order. -/
theorem pairs_of_ascending {n : Nat} : ∀ {l : List (Fin n)}, l.Pairwise (· < ·) →
    pairs l = l.flatMap fun i => (l.filter (i < ·)).map fun j => (i, j)
  | [], _ => rfl
  | a :: l, h => by
    obtain ⟨ha, hl⟩ := List.pairwise_cons.1 h
    have hfirst : (a :: l).filter (a < ·) = l := by
      rw [List.filter_cons_of_neg (by simp), List.filter_eq_self]
      exact fun j hj => by simpa using ha j hj
    have hrest : ∀ i ∈ l, (a :: l).filter (i < ·) = l.filter (i < ·) := fun i hi =>
      List.filter_cons_of_neg (by simpa using (ha i hi).le)
    rw [pairs, pairs_of_ascending hl, List.flatMap_cons, hfirst]
    exact congrArg _ (List.flatMap_congr fun i hi => by rw [hrest i hi])

variable {set set' : DocumentSet} {equivalence : Equivalence} {place : Nat → Nat}

theorem entries_eq_map_finRange :
    set.entries = (List.finRange set.documents.length).map fun i => ⟨i, set.documents[i]⟩ := by
  refine List.ext_getElem (by simp [entries]) fun i hi hi' => ?_
  simp [entries]

/-- What is found in a set, with its documents at other places. -/
theorem map_renumber_compare (hplace : Function.Injective place) :
    (set.compare equivalence).map (.renumber place) = (pairs (set.entries.map (.renumber place))).flatMap fun p =>
      comparePair equivalence set.tolerance? p.1 p.2 := by
  rw [compare, List.map_flatMap, pairs_map, List.flatMap_map]
  exact List.flatMap_congr fun p _ => (comparePair_renumber fun h => hplace h).symm

theorem map_document_entries : set.entries.map Entry.document = set.documents := by
  simp [entries, Function.comp_def, List.zipIdx_map_fst]

/-- Documents that stand in another set as well, in the same order, and are judged there alike, yield the same. -/
theorem compare_sublist (hplace : Function.Injective place)
    (hentries : (set.entries.map (.renumber place)).Sublist set'.entries)
    (htolerance : ∀ a b : Entry, [a.document, b.document].Sublist set.documents →
      comparePair equivalence set.tolerance? a b = comparePair equivalence set'.tolerance? a b) :
    ((set.compare equivalence).map (.renumber place)).Sublist (set'.compare equivalence) := by
  rw [map_renumber_compare hplace]
  have hpairs : ∀ p ∈ pairs (set.entries.map (.renumber place)),
      comparePair equivalence set.tolerance? p.1 p.2 = comparePair equivalence set'.tolerance? p.1 p.2 := by
    intro p hp
    have hsublist := (sublist_of_mem_pairs hp).map Entry.document
    have hdocuments : set.entries.map (Entry.document ∘ Entry.renumber place) = set.documents := map_document_entries
    rw [List.map_map, hdocuments] at hsublist
    exact htolerance p.1 p.2 hsublist
  rw [List.flatMap_congr hpairs]
  exact (pairs_sublist hentries).flatMap _

/-! ## Two documents by themselves -/

/-- Two documents by themselves, as a set. -/
def only (set : DocumentSet) (a b : Document) : DocumentSet := { set with documents := [a, b] }

/-- The places in a set of two documents that stand by themselves. -/
def pairPlace (i j : Nat) (k : Nat) : Nat := if k = 0 then i else j

theorem compare_only {a b : Document} : (set.only a b).compare equivalence =
    comparePair equivalence (set.only a b).tolerance? ⟨0, a⟩ ⟨1, b⟩ :=
  List.append_nil _

/-- In a set with one credit at most, a pair yields what its documents yield by themselves. -/
theorem comparePair_eq_map_compare_only {i j : Nat} {a b : Document} (hij : i ≠ j)
    (hone : set.documents.countP (·.kind.isCredit) ≤ 1) (hsublist : [a, b].Sublist set.documents) :
    comparePair equivalence set.tolerance? ⟨i, a⟩ ⟨j, b⟩ =
      ((set.only a b).compare equivalence).map (.renumber (pairPlace i j)) := by
  have hplace : pairPlace i j 0 = pairPlace i j 1 → 0 = 1 := fun h => absurd h hij
  rw [compare_only, ← comparePair_renumber hplace]
  exact comparePair_tolerance? hone (hsublist.countP_le.trans hone) (hsublist.subset (by simp))
    (hsublist.subset (by simp)) (by simp [only]) (by simp [only])

/-! ## Further documents -/

/-- The set with one more document, at a place of it. -/
def insert (set : DocumentSet) (k : Nat) (document : Document) : DocumentSet :=
  { set with documents := set.documents.insertIdx k document }

/-- The places of documents when one more is put in front of those from a place on. -/
def shift (k i : Nat) : Nat := if i < k then i else i + 1

theorem shift_strictMono (k : Nat) : StrictMono (shift k) := by
  intro i j hij
  unfold shift
  split <;> split <;> omega

theorem getElem?_insert_shift {k i : Nat} {document : Document} :
    (set.insert k document).documents[shift k i]? = set.documents[i]? := by
  unfold shift
  split
  · next hlt => exact List.getElem?_insertIdx_of_lt hlt
  · next hge => exact List.getElem?_insertIdx_of_gt (show k < i + 1 by omega)

theorem entries_sublist_insert {k : Nat} {document : Document} :
    (set.entries.map (.renumber (shift k))).Sublist (set.insert k document).entries := by
  refine List.sublist_iff_exists_orderEmbedding_getElem?_eq.2
    ⟨OrderEmbedding.ofStrictMono (shift k) (shift_strictMono k), fun i => ?_⟩
  rw [OrderEmbedding.coe_ofStrictMono, List.getElem?_map, entries_getElem?, entries_getElem?, getElem?_insert_shift,
    Option.map_map]
  rfl

/-- The set with one more document behind the others. -/
def add (set : DocumentSet) (document : Document) : DocumentSet :=
  { set with documents := set.documents ++ [document] }

theorem entries_sublist_add {document : Document} : set.entries.Sublist (set.add document).entries := by
  simp only [entries, add, List.zipIdx_append, List.map_append]
  exact List.sublist_append_left _ _

/-- A document behind the others changes nothing in how these are judged: it lends its tolerance only where none of them
is a credit. -/
theorem comparePair_tolerance?_add {document : Document} {a b : Entry}
    (hsublist : [a.document, b.document].Sublist set.documents) :
    comparePair equivalence set.tolerance? a b = comparePair equivalence (set.add document).tolerance? a b := by
  refine comparePair_congr fun hne => ?_
  -- One of the two is a credit, so that the first credit is found before the new document is reached.
  have hcredit : ∃ c ∈ set.documents, c.kind.isCredit = true := by
    cases ha : a.document.kind.isCredit with
    | true => exact ⟨a.document, hsublist.subset (by simp), ha⟩
    | false => exact ⟨b.document, hsublist.subset (by simp), by simpa [ha] using hne.symm⟩
  have hfirst : set.documents.find? (·.kind.isCredit) ≠ none := by simpa using hcredit
  obtain ⟨first, hfirst⟩ := Option.ne_none_iff_exists'.1 hfirst
  simp only [tolerance?, add, List.find?_append, hfirst, Option.some_or]

theorem compare_sublist_add {document : Document} :
    (set.compare equivalence).Sublist ((set.add document).compare equivalence) := by
  have hentries : set.entries.map (Entry.renumber fun i => i) = set.entries := List.map_id'' (fun _ => rfl) _
  have hfound : (set.compare equivalence).map (Disagreement.renumber fun i => i) = set.compare equivalence :=
    List.map_id'' (fun _ => rfl) _
  rw [← hfound]
  refine compare_sublist Function.injective_id ?_ fun a b => comparePair_tolerance?_add
  rw [hentries]
  exact entries_sublist_add

/-- **Each two documents are compared as if they were alone.** In a set with one credit at most, what is found is, one
after another for each two documents in the order of their places, what the two yield by themselves, under their places
in the set. So no other document bears on what is found between two, and a further document, behind the others or at any
place among them, leaves all that was found as it was and in its order. -/
theorem compare_eq_flatMap_only (set : DocumentSet) (equivalence : Equivalence)
    (hone : set.documents.countP (·.kind.isCredit) ≤ 1) :
    (set.compare equivalence = (List.finRange set.documents.length).flatMap fun i =>
      ((List.finRange set.documents.length).filter (i < ·)).flatMap fun j =>
        ((set.only set.documents[i] set.documents[j]).compare equivalence).map (.renumber (pairPlace i j))) ∧
    (∀ i j : Fin set.documents.length, i < j → (set.compare equivalence).filter (fun d => d.IsBetween i j) =
      ((set.only set.documents[i] set.documents[j]).compare equivalence).map (.renumber (pairPlace i j))) ∧
    (∀ document, (set.compare equivalence).Sublist ((set.add document).compare equivalence)) ∧
    (∀ k document, (set.insert k document).documents.countP (·.kind.isCredit) ≤ 1 →
      ((set.compare equivalence).map (.renumber (shift k))).Sublist ((set.insert k document).compare equivalence)) := by
  have hpair : ∀ i j : Fin set.documents.length, i < j →
      comparePair equivalence set.tolerance? ⟨i, set.documents[i]⟩ ⟨j, set.documents[j]⟩ =
        ((set.only set.documents[i] set.documents[j]).compare equivalence).map (.renumber (pairPlace i j)) := by
    intro i j hij
    have hmem : (set.documents[i], set.documents[j]) ∈ pairs set.documents :=
      mem_pairs_iff.2 ⟨i, j, hij, by simp, by simp⟩
    exact comparePair_eq_map_compare_only (Nat.ne_of_lt hij) hone (sublist_of_mem_pairs hmem)
  refine ⟨?_, fun i j hij => ?_, fun document => ?_, fun k document hone' => ?_⟩
  · rw [compare, entries_eq_map_finRange, pairs_map, pairs_of_ascending (List.pairwise_lt_finRange _), List.flatMap_map,
      List.flatMap_assoc]
    refine List.flatMap_congr fun i _ => ?_
    rw [List.flatMap_map]
    exact List.flatMap_congr fun j hj => hpair i j (by simpa using (List.mem_filter.1 hj).2)
  · rw [← hpair i j hij]
    exact filter_isBetween_compare hij (by simp) (by simp)
  · exact compare_sublist_add
  · refine compare_sublist (shift_strictMono k).injective entries_sublist_insert fun a b hsublist => ?_
    have hsublist' := hsublist.trans (List.sublist_insertIdx set.documents k document)
    exact comparePair_tolerance? hone hone' (hsublist.subset (by simp)) (hsublist.subset (by simp))
      (hsublist'.subset (by simp)) (hsublist'.subset (by simp))

/-- A credit for a hundred dollars, an invoice for ten dollars more and a draft for five more, both too much and not the
same. -/
def invoiceAndDraft : DocumentSet := ⟨"S1", "LC1", [
  ⟨.credit, none, .ofList [("32B", "USD100,00")]⟩,
  ⟨.commercialInvoice, none, .ofList [("amount", "USD 110.00")]⟩,
  ⟨.draft, none, .ofList [("amount", "USD 105.00")]⟩]⟩

theorem compare_eq_flatMap_only_invoiceAndDraft :
    invoiceAndDraft.documents.countP (·.kind.isCredit) ≤ 1 ∧
      (invoiceAndDraft.compare {}).filter (fun d => d.IsBetween 1 2) = [⟨.differs,
        ⟨.amount, ⟨1, .commercialInvoice, none⟩, "USD 110.00"⟩, ⟨.amount, ⟨2, .draft, none⟩, "USD 105.00"⟩,
        false⟩] := by
  have hone : invoiceAndDraft.documents.countP (·.kind.isCredit) ≤ 1 := by decide
  obtain ⟨-, hpair, -, -⟩ := compare_eq_flatMap_only invoiceAndDraft {} hone
  exact ⟨hone, (hpair ⟨1, by decide⟩ ⟨2, by decide⟩ (by decide)).trans (by decide +kernel)⟩

end DocumentSet

end DocumentaryCredit

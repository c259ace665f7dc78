/-
The amount of a credit as a ceiling for the documents presented under it. The comparison reads the tolerance of the set's
first credit and judges every pair of a credit and another document by it. With one credit that is the credit's own, and
of amounts of at most 15 digits nothing is rounded away, so that the ceiling is exact (`exists_permitted?`).
-/
import DocumentaryCredit.Proofs.Arithmetic
import DocumentaryCredit.Proofs.Presentation.Pairs

namespace DocumentaryCredit

open Text

/-! ## Amounts as they are written -/

theorem countP_plainNumber_le (cs : List Char) : (plainNumber cs).countP isDigit ≤ cs.countP isDigit := by
  have hdrop : ∀ l : List Char, (if l.getLast? = some '.' then l.dropLast else l).countP isDigit ≤ l.countP isDigit := by
    intro l
    split
    · exact (List.dropLast_sublist l).countP_le
    · exact le_rfl
  refine (hdrop _).trans ?_
  rw [List.countP_filterMap]
  refine List.countP_mono_left fun c _ hc => ?_
  split at hc
  · simpa using hc
  · split at hc <;> exact absurd hc (by decide)

theorem readDecimal?_hasDigits {cs : List Char} {a : Decimal} (h : readDecimal? cs = some a)
    (hlimit : cs.countP isDigit ≤ 28) : a.HasDigits (cs.countP isDigit) := by
  have hplain := countP_plainNumber_le cs
  unfold readDecimal? at h
  split at h
  · exact (Decimal.read?_hasDigits h (hplain.trans hlimit)).mono hplain
  · cases h

theorem splitCurrency_sublist (cs : List Char) : (splitCurrency cs).2.Sublist cs := by
  unfold splitCurrency
  repeat' split
  all_goals first | exact List.Sublist.refl _ | exact List.drop_sublist _ _ | exact List.take_sublist _ _

/-- An amount has no more digits than its text. -/
theorem parseAmount?_hasDigits {s : String} {m : Amount} (h : parseAmount? s = some m)
    (hlimit : s.toList.countP isDigit ≤ 28) : m.value.HasDigits (s.toList.countP isDigit) := by
  obtain ⟨a, hread, rfl⟩ := Option.map_eq_some_iff.1 h
  have hle : (splitCurrency (s.toList.filter (!isBlankChar ·))).2.countP isDigit ≤ s.toList.countP isDigit :=
    ((splitCurrency_sublist _).trans List.filter_sublist).countP_le
  exact (readDecimal?_hasDigits hread (hle.trans hlimit)).mono hle

/-! ## The tolerance of a credit -/

/-- One digit or two. -/
def IsPercentage (cs : List Char) : Prop := (cs.length = 1 ∨ cs.length = 2) ∧ ∀ c ∈ cs, isDigit c = true

/-- A text is two percentages with a slash between them. -/
structure StatesTolerance (raw : String) (plus minus : List Char) : Prop where
  text : (trim raw).toList = plus ++ '/' :: minus
  plus : IsPercentage plus
  minus : IsPercentage minus

/-- By how many hundredths a credit lets its amount be exceeded: what it states, or none where it states nothing, or
nothing that is a tolerance. -/
inductive Document.Widens (credit : Document) : Nat → Prop where
  | stated {raw : String} {plus minus : List Char} (hraw : credit.tolerance? = some raw)
      (h : StatesTolerance raw plus minus) : Widens credit (digitsValue plus)
  | unstated (h : ∀ raw plus minus, credit.tolerance? = some raw → ¬ StatesTolerance raw plus minus) :
      Widens credit 0

theorem IsPercentage.digitsValue_lt {cs : List Char} (h : IsPercentage cs) : digitsValue cs < 100 :=
  (Text.digitsValue_lt h.2).trans_le (Nat.pow_le_pow_right (by decide) (show cs.length ≤ 2 by have := h.1; omega))

theorem readPercentage?_eq_some_iff {cs : List Char} {a : Decimal} :
    readPercentage? cs = some a ↔ IsPercentage cs ∧ a.mantissa = digitsValue cs ∧ a.scale = 0 := by
  have hwritten : (cs.isEmpty || decide (cs.length > 2) || !cs.all isDigit) = false ↔ IsPercentage cs := by
    simp only [IsPercentage, Bool.or_eq_false_iff, List.isEmpty_eq_false_iff, decide_eq_false_iff_not,
      Bool.not_eq_false', List.all_eq_true, ← List.length_pos_iff]
    exact and_congr_left fun _ => by omega
  unfold readPercentage?
  by_cases h : IsPercentage cs
  · have hfits : digitsValue cs < 2 ^ 96 := h.digitsValue_lt.trans (by decide)
    rw [hwritten.2 h, if_neg (by decide), Decimal.ofNat?, Decimal.make?, dif_pos ⟨hfits, Nat.zero_le _⟩]
    obtain ⟨mantissa, scale, _, _⟩ := a
    simp [h, eq_comm]
  · rw [if_pos (Bool.eq_true_of_not_eq_false (mt hwritten.1 h))]
    simp [h]

theorem StatesTolerance.takeWhile_eq {raw : String} {plus minus : List Char} (h : StatesTolerance raw plus minus) :
    (trim raw).toList.takeWhile (· != '/') = plus ∧ (trim raw).toList.dropWhile (· != '/') = '/' :: minus := by
  have hplus : ∀ c ∈ plus, (c != '/') = true := by
    intro c hc
    rw [bne_iff_ne]
    rintro rfl
    exact absurd (h.plus.2 _ hc) (by decide)
  rw [h.text, List.takeWhile_append_of_pos hplus, List.dropWhile_append_of_pos hplus]
  simp

theorem parseTolerance?_eq_some_iff {raw : String} {t : Tolerance} :
    parseTolerance? raw = some t ↔ ∃ plus minus, StatesTolerance raw plus minus ∧
      (t.plus.mantissa = digitsValue plus ∧ t.plus.scale = 0) ∧
      t.minus.mantissa = digitsValue minus ∧ t.minus.scale = 0 := by
  simp only [parseTolerance?, drop_length_takeWhile]
  constructor
  · intro h
    split at h
    · cases h
    next mark minus hrest =>
    have hmark : (mark != '/') = false := head?_dropWhile_eq_false mark (by rw [hrest]; rfl)
    obtain rfl : mark = '/' := by simpa using hmark
    simp only [Option.bind_eq_bind, Option.bind_eq_some_iff, readPercentage?_eq_some_iff] at h
    obtain ⟨a, ⟨hplus, ha⟩, b, ⟨hminus, hb⟩, h⟩ := h
    cases h
    exact ⟨_, minus, ⟨by rw [← hrest, List.takeWhile_append_dropWhile], hplus, hminus⟩, ha, hb⟩
  · rintro ⟨plus, minus, hstates, hplus, hminus⟩
    obtain ⟨htake, hdrop⟩ := hstates.takeWhile_eq
    have hread := readPercentage?_eq_some_iff.2 ⟨hstates.plus, hplus⟩
    have hread' := readPercentage?_eq_some_iff.2 ⟨hstates.minus, hminus⟩
    simp [htake, hdrop, hread, hread']

theorem StatesTolerance.exists_parseTolerance? {raw : String} {plus minus : List Char}
    (h : StatesTolerance raw plus minus) : ∃ t, parseTolerance? raw = some t ∧ t.plus.mantissa = digitsValue plus := by
  have hfits : ∀ {cs}, IsPercentage cs → digitsValue cs < 2 ^ 96 := fun hcs => hcs.digitsValue_lt.trans (by decide)
  exact ⟨⟨⟨_, 0, hfits h.plus, Nat.zero_le _⟩, ⟨_, 0, hfits h.minus, Nat.zero_le _⟩⟩,
    parseTolerance?_eq_some_iff.2 ⟨plus, minus, h, ⟨rfl, rfl⟩, rfl, rfl⟩, rfl⟩

/-- The percentage of a credit is the one that the comparison reads. -/
theorem Document.widens_iff {credit : Document} {n : Nat} :
    credit.Widens n ↔ n = ((credit.tolerance?.bind parseTolerance?).map (·.plus.mantissa)).getD 0 := by
  constructor
  · intro h
    cases h with
    | stated hraw hstates =>
      obtain ⟨t, hread, hplus⟩ := hstates.exists_parseTolerance?
      simp [hraw, hread, hplus]
    | unstated hnone =>
      cases hraw : credit.tolerance? with
      | none => rfl
      | some raw =>
        cases hread : parseTolerance? raw with
        | none => simp [hread]
        | some t =>
          obtain ⟨plus, minus, hstates, -⟩ := parseTolerance?_eq_some_iff.1 hread
          exact absurd hstates (hnone raw plus minus hraw)
  · rintro rfl
    cases hraw : credit.tolerance? with
    | none => exact .unstated fun raw plus minus hsome => by simp [hraw] at hsome
    | some raw =>
      cases hread : parseTolerance? raw with
      | none =>
        simp only [Option.bind_some, hread, Option.map_none, Option.getD_none]
        refine .unstated fun raw' plus minus hraw' hstates => ?_
        rw [hraw, Option.some.injEq] at hraw'
        obtain ⟨t, hsome, -⟩ := (hraw' ▸ hstates).exists_parseTolerance?
        rw [hread] at hsome
        cases hsome
      | some t =>
        obtain ⟨plus, minus, hstates, ⟨hplus, -⟩, -⟩ := parseTolerance?_eq_some_iff.1 hread
        simp only [Option.bind_some, hread, Option.map_some, Option.getD_some, hplus]
        exact .stated hraw hstates

/-- What a credit permits of an amount of at most 15 digits is the amount and the stated hundredths of it. -/
theorem exists_permitted? (stated : Option String) {amount : Decimal} (h : amount.HasDigits 15) :
    ∃ ceiling, permitted? (stated.bind parseTolerance?) amount = some ceiling ∧ ceiling.toRat =
      amount.toRat * (100 + (((stated.bind parseTolerance?).map (·.plus.mantissa)).getD 0 : Nat)) / 100 := by
  cases ht : stated.bind parseTolerance? with
  | none => exact ⟨amount, rfl, by simp⟩
  | some t =>
    obtain ⟨raw, -, hread⟩ := Option.bind_eq_some_iff.1 ht
    obtain ⟨plus, minus, hstates, ⟨hplus, hscale⟩, -⟩ := parseTolerance?_eq_some_iff.1 hread
    exact Tolerance.exists_ceiling? h (hplus ▸ hstates.plus.digitsValue_lt) hscale

/-! ## The amounts of a pair -/

/-- Both amounts state a currency, and not the same one. -/
def Amount.CurrenciesDiffer (m n : Amount) : Prop := ∃ c ∈ m.currency, ∃ d ∈ n.currency, c ≠ d

instance (m n : Amount) : Decidable (m.CurrenciesDiffer n) := by
  unfold Amount.CurrenciesDiffer; infer_instance

theorem Amount.currenciesDiffer_comm {m n : Amount} : m.CurrenciesDiffer n ↔ n.CurrenciesDiffer m := by
  unfold CurrenciesDiffer
  constructor <;> exact fun ⟨c, hc, d, hd, hne⟩ => ⟨d, hd, c, hc, hne.symm⟩

theorem Amount.currenciesDiffer_iff {m n : Amount} :
    (match m.currency, n.currency with | some c, some d => c != d | _, _ => false) = true ↔ m.CurrenciesDiffer n := by
  unfold CurrenciesDiffer
  cases m.currency <;> cases n.currency <;> simp

/-- What the amount of a document yields against that of a credit, under a tolerance. -/
def judgeAmount (tolerance : Option Tolerance) (credit presented : Amount) : Option DisagreementKind :=
  if credit.CurrenciesDiffer presented then some .differs
  else match permitted? tolerance credit.value with
    | none => some .unreadable
    | some ceiling => if presented.value.exceeds ceiling then some .exceedsCredit else none

/-- A disagreement of two sides, the earlier document first. -/
def Disagreement.inOrder (x y : Side) (kind : DisagreementKind) : Disagreement :=
  if x.document.index < y.document.index then ⟨kind, x, y, false⟩ else ⟨kind, y, x, false⟩

theorem Disagreement.map_kind_inOrder (x y : Side) (found : Option DisagreementKind) :
    (found.map (inOrder x y)).toList.map (·.kind) = found.toList := by
  cases found with
  | none => rfl
  | some kind =>
    simp only [inOrder, Option.map_some, Option.toList_some, List.map_cons, List.map_nil]
    split <;> rfl

theorem compareAmounts_of_credit {tolerance : Option Tolerance} {x y : Side} {m n : Amount}
    (hx : x.document.kind.isCredit = true) (hy : y.document.kind.isCredit = false)
    (hm : parseAmount? x.value = some m) (hn : parseAmount? y.value = some n) :
    compareAmounts tolerance x y = judgeAmount tolerance m n ∧
      compareAmounts tolerance y x = judgeAmount tolerance m n := by
  simp only [compareAmounts, hm, hn, hx, hy, judgeAmount]
  exact ⟨if_congr Amount.currenciesDiffer_iff rfl rfl,
    if_congr (Amount.currenciesDiffer_iff.trans Amount.currenciesDiffer_comm) rfl rfl⟩

namespace DocumentSet

variable {set : DocumentSet} {equivalence : Equivalence} {c p : Nat} {credit presented : Document} {x y : String}
  {m n : Amount}

/-- What is found about the amounts of a credit and another document, wherever the two stand in their set. -/
theorem findings_amount (hc : set.documents[c]? = some credit) (hp : set.documents[p]? = some presented)
    (hcredit : credit.kind.isCredit = true) (hpresented : presented.kind.isCredit = false)
    (hx : credit.stated? .amount = some x) (hy : presented.stated? .amount = some y)
    (hm : parseAmount? x = some m) (hn : parseAmount? y = some n) :
    set.findings equivalence .amount c p =
      ((judgeAmount set.tolerance? m n).map (Disagreement.inOrder ⟨.amount, .of c credit, x⟩
        ⟨.amount, .of p presented, y⟩)).toList := by
  have hfree : ∀ bounds ∈ dateBounds, bounds.1 ≠ .amount ∧ bounds.2 ≠ .amount := by decide
  have hcompare : compareAmounts set.tolerance? ⟨.amount, .of c credit, x⟩ ⟨.amount, .of p presented, y⟩ =
        judgeAmount set.tolerance? m n ∧
      compareAmounts set.tolerance? ⟨.amount, .of p presented, y⟩ ⟨.amount, .of c credit, x⟩ =
        judgeAmount set.tolerance? m n := compareAmounts_of_credit hcredit hpresented hm hn
  have hside : (Entry.mk c credit).side? .amount = some ⟨.amount, .of c credit, x⟩ := by simp [Entry.side?, hx]
  have hside' : (Entry.mk p presented).side? .amount = some ⟨.amount, .of p presented, y⟩ := by simp [Entry.side?, hy]
  rcases Nat.lt_trichotomy c p with hlt | heq | hlt
  · have horder : Disagreement.inOrder ⟨.amount, .of c credit, x⟩ ⟨.amount, .of p presented, y⟩ =
        fun kind => ⟨kind, ⟨.amount, .of c credit, x⟩, ⟨.amount, .of p presented, y⟩, false⟩ :=
      funext fun _ => if_pos hlt
    rw [findings_eq hlt hc hp, filter_isOn_comparePair rfl hfree, horder]
    simp only [disagreement?, hside, hside', compareSides, LogicalField.category, hcompare.1]
  · rw [← heq, hc, Option.some.injEq] at hp
    rw [← hp, hcredit] at hpresented
    cases hpresented
  · have horder : Disagreement.inOrder ⟨.amount, .of c credit, x⟩ ⟨.amount, .of p presented, y⟩ =
        fun kind => ⟨kind, ⟨.amount, .of p presented, y⟩, ⟨.amount, .of c credit, x⟩, false⟩ :=
      funext fun _ => if_neg (Nat.lt_asymm hlt)
    rw [findings_comm, findings_eq hlt hp hc, filter_isOn_comparePair rfl hfree, horder]
    simp only [disagreement?, hside, hside', compareSides, LogicalField.category, hcompare.2]

/-- The only credit of a set is its first one. -/
theorem find?_isCredit_of_countP (hone : set.documents.countP (·.kind.isCredit) = 1)
    (hc : set.documents[c]? = some credit) (hcredit : credit.kind.isCredit = true) :
    set.documents.find? (·.kind.isCredit) = some credit :=
  find?_eq_some_of_countP_le_one hone.le (List.mem_of_getElem? hc) hcredit

/-- **With one credit, its amount and its own tolerance are an exact ceiling.** Between the credit of a set and any other
document of it that states an amount, in whichever order the two stand, the comparison finds one difference where both
state a currency and not the same one, and otherwise that the presented amount exceeds the credit exactly when it is more
than the credit's and so many hundredths of it as the tolerance permits; there is no tolerance where the credit states
none that can be read. -/
theorem findings_amount_of_oneCredit (equivalence : Equivalence)
    (hone : set.documents.countP (·.kind.isCredit) = 1)
    (hc : set.documents[c]? = some credit) (hp : set.documents[p]? = some presented)
    (hcredit : credit.kind.isCredit = true) (hpresented : presented.kind.isCredit = false)
    (hx : credit.stated? .amount = some x) (hy : presented.stated? .amount = some y)
    (hm : parseAmount? x = some m) (hn : parseAmount? y = some n) (hdigits : x.toList.countP isDigit ≤ 15) :
    ∃ plus, (∀ k, credit.Widens k ↔ k = plus) ∧
      (m.CurrenciesDiffer n → set.findings equivalence .amount c p =
        [Disagreement.inOrder ⟨.amount, .of c credit, x⟩ ⟨.amount, .of p presented, y⟩ .differs]) ∧
      (¬ m.CurrenciesDiffer n → m.value.toRat * (100 + plus) / 100 < n.value.toRat →
        set.findings equivalence .amount c p =
          [Disagreement.inOrder ⟨.amount, .of c credit, x⟩ ⟨.amount, .of p presented, y⟩ .exceedsCredit]) ∧
      (¬ m.CurrenciesDiffer n → n.value.toRat ≤ m.value.toRat * (100 + plus) / 100 →
        set.findings equivalence .amount c p = []) := by
  have htolerance : set.tolerance? = credit.tolerance?.bind parseTolerance? := by
    rw [tolerance?, find?_isCredit_of_countP hone hc hcredit, Option.bind_some]
  have hbase := (parseAmount?_hasDigits hm (hdigits.trans (by decide))).mono hdigits
  obtain ⟨plus, hplus, ceiling, hceiling, hvalue⟩ : ∃ plus : Nat, (∀ k, credit.Widens k ↔ k = plus) ∧
      ∃ ceiling, permitted? set.tolerance? m.value = some ceiling ∧
        ceiling.toRat = m.value.toRat * (100 + plus) / 100 := by
    rw [htolerance]
    exact ⟨_, fun k => Document.widens_iff, exists_permitted? credit.tolerance? hbase⟩
  rw [findings_amount hc hp hcredit hpresented hx hy hm hn]
  refine ⟨plus, hplus, fun hdiffer => ?_, fun hsame hlt => ?_, fun hsame hle => ?_⟩
  · rw [judgeAmount, if_pos hdiffer]
    rfl
  · rw [← hvalue, ← Decimal.exceeds_iff] at hlt
    simp only [judgeAmount, if_neg hsame, hceiling, if_pos hlt]
    rfl
  · rw [← hvalue, ← not_lt, ← Decimal.exceeds_iff] at hle
    simp only [judgeAmount, if_neg hsame, hceiling, if_neg hle]
    rfl

/-- A credit for a hundred dollars, give or take ten in the hundred. -/
def hundred : Document := ⟨.credit, none, .ofList [("32B", "USD100,00"), ("39A", "10/10")]⟩

/-- An invoice for a cent more than such a credit permits. -/
def centTooMuch : Document := ⟨.commercialInvoice, none, .ofList [("amount", "USD 110.01")]⟩

theorem findings_amount_of_oneCredit_centTooMuch :
    [centTooMuch, hundred].countP (·.kind.isCredit) = 1 ∧ hundred.Widens 10 ∧
      "USD100,00".toList.countP isDigit ≤ 15 ∧
      (DocumentSet.mk "S1" "LC1" [centTooMuch, hundred]).findings {} .amount 1 0 = [⟨.exceedsCredit,
        ⟨.amount, ⟨0, .commercialInvoice, none⟩, "USD 110.01"⟩, ⟨.amount, ⟨1, .credit, none⟩, "USD100,00"⟩, false⟩] := by
  have hx : hundred.stated? .amount = some "USD100,00" := by decide +kernel
  have hy : centTooMuch.stated? .amount = some "USD 110.01" := by decide +kernel
  have hm : parseAmount? "USD100,00" = some ⟨some "USD", ⟨10000, 2, by decide, by decide⟩⟩ := by decide +kernel
  have hn : parseAmount? "USD 110.01" = some ⟨some "USD", ⟨11001, 2, by decide, by decide⟩⟩ := by decide +kernel
  have hten : hundred.Widens 10 := Document.widens_iff.2 (by decide +kernel)
  have hone : (DocumentSet.mk "S1" "LC1" [centTooMuch, hundred]).documents.countP (·.kind.isCredit) = 1 := by decide
  have hdigits : "USD100,00".toList.countP isDigit ≤ 15 := by decide
  have hc : (DocumentSet.mk "S1" "LC1" [centTooMuch, hundred]).documents[1]? = some hundred := rfl
  have hp : (DocumentSet.mk "S1" "LC1" [centTooMuch, hundred]).documents[0]? = some centTooMuch := rfl
  obtain ⟨plus, hplus, -, hexceeds, -⟩ := findings_amount_of_oneCredit {} hone hc hp rfl rfl hx hy hm hn hdigits
  obtain rfl : 10 = plus := (hplus 10).1 hten
  exact ⟨hone, hten, hdigits, hexceeds (by decide) (by norm_num [Decimal.toRat])⟩

/-! ## Several credits -/

/-- **A pair is judged by the tolerance of the set's first credit.** What is found about the amounts of a credit and
another document is the same in any two sets whose first credits state the same tolerance, whatever else is in them: it
depends on the two documents alone where the credit of the pair is the first of its set. -/
theorem kinds_amount_of_sameTolerance {set' : DocumentSet} {c' p' : Nat} {first first' : Document}
    (equivalence equivalence' : Equivalence)
    (hc : set.documents[c]? = some credit) (hp : set.documents[p]? = some presented)
    (hc' : set'.documents[c']? = some credit) (hp' : set'.documents[p']? = some presented)
    (hcredit : credit.kind.isCredit = true) (hpresented : presented.kind.isCredit = false)
    (hx : credit.stated? .amount = some x) (hy : presented.stated? .amount = some y)
    (hm : parseAmount? x = some m) (hn : parseAmount? y = some n)
    (hfirst : set.documents.find? (·.kind.isCredit) = some first)
    (hfirst' : set'.documents.find? (·.kind.isCredit) = some first')
    (hstated : first.tolerance?.bind parseTolerance? = first'.tolerance?.bind parseTolerance?) :
    (set.findings equivalence .amount c p).map (·.kind) = (set'.findings equivalence' .amount c' p').map (·.kind) := by
  have htolerance : set.tolerance? = set'.tolerance? := by
    rw [tolerance?, tolerance?, hfirst, hfirst', Option.bind_some, Option.bind_some, hstated]
  rw [findings_amount hc hp hcredit hpresented hx hy hm hn, findings_amount hc' hp' hcredit hpresented hx hy hm hn,
    htolerance, Disagreement.map_kind_inOrder, Disagreement.map_kind_inOrder]

/-- A credit for a hundred dollars and no more. -/
def exactHundred : Document := ⟨.credit, none, .ofList [("32B", "USD100,00")]⟩

/-- An invoice for five dollars more than a hundred. -/
def fiveTooMuch : Document := ⟨.commercialInvoice, none, .ofList [("amount", "USD 105.00")]⟩

/-- A second credit behind the first changes nothing. -/
theorem kinds_amount_of_sameTolerance_behind :
    ((DocumentSet.mk "S1" "LC1" [hundred, fiveTooMuch]).findings {} .amount 0 1).map (·.kind) =
      ((DocumentSet.mk "S1" "LC1" [fiveTooMuch, hundred, exactHundred]).findings {} .amount 1 0).map (·.kind) := by
  have hx : hundred.stated? .amount = some "USD100,00" := by decide +kernel
  have hy : fiveTooMuch.stated? .amount = some "USD 105.00" := by decide +kernel
  have hm : parseAmount? "USD100,00" = some ⟨some "USD", ⟨10000, 2, by decide, by decide⟩⟩ := by decide +kernel
  have hn : parseAmount? "USD 105.00" = some ⟨some "USD", ⟨10500, 2, by decide, by decide⟩⟩ := by decide +kernel
  exact kinds_amount_of_sameTolerance {} {} rfl rfl rfl rfl rfl rfl hx hy hm hn rfl rfl rfl

/-- A credit in front of the pair's own lends it a tolerance: five dollars too much are found under the exact credit by
itself, and not where another credit permits ten. -/
theorem kinds_amount_behind_other_credit :
    (DocumentSet.mk "S1" "LC1" [exactHundred, fiveTooMuch]).findings {} .amount 0 1 = [⟨.exceedsCredit,
        ⟨.amount, ⟨0, .credit, none⟩, "USD100,00"⟩, ⟨.amount, ⟨1, .commercialInvoice, none⟩, "USD 105.00"⟩, false⟩] ∧
      (DocumentSet.mk "S1" "LC1" [hundred, exactHundred, fiveTooMuch]).findings {} .amount 1 2 = [] := by
  decide +kernel

end DocumentSet

end DocumentaryCredit

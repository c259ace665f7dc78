/-
The numbers that a text mentions: its runs of digits, commas and points, and which of them are found. Main statement:
the numbers found are those of the runs that can be read, in their order, and a run with a digit can be read unless its
whole part does not fit or its decimal mark stands twice. Descriptions of goods with unequal counts of such numbers are
at least a high discrepancy; a number that cannot be read does not count.
-/
import DocumentaryCredit.Presentation.Discrepancy
import DocumentaryCredit.Proofs.Decimal.Readable
import DocumentaryCredit.Proofs.Presentation.AmountWritings

namespace DocumentaryCredit

open Text

/-! ## Runs -/

namespace Text

/-- The runs of a text: the longest pieces with characters of one kind only, in order. -/
inductive Runs (p : Char → Bool) : List Char → List (List Char) → Prop where
  | nil : Runs p [] []
  | skip {c : Char} {rest : List Char} {runs : List (List Char)} (hc : p c = false) (h : Runs p rest runs) :
      Runs p (c :: rest) runs
  | run {run rest : List Char} {runs : List (List Char)} (hne : run ≠ []) (hrun : ∀ c ∈ run, p c = true)
      (hstop : ∀ c ∈ rest.head?, p c = false) (h : Runs p rest runs) : Runs p (run ++ rest) (run :: runs)

namespace Runs

variable {p : Char → Bool} {cs : List Char} {runs : List (List Char)}

theorem exists_runs (p : Char → Bool) (cs : List Char) : ∃ runs, Runs p cs runs := by
  induction cs with
  | nil => exact ⟨[], .nil⟩
  | cons c cs ih =>
    obtain ⟨runs, h⟩ := ih
    cases hc : p c with
    | false => exact ⟨runs, .skip hc h⟩
    | true =>
      have halone : ∀ d ∈ [c], p d = true := by simpa using hc
      cases h with
      | nil => exact ⟨[[c]], .run (List.cons_ne_nil c []) halone (by simp) .nil⟩
      | skip hd h => exact ⟨[c] :: runs, .run (List.cons_ne_nil c []) halone (by simpa using hd) (.skip hd h)⟩
      | @run run _ runs hne hrun hstop h =>
        exact ⟨(c :: run) :: runs, .run (List.cons_ne_nil c run) (List.forall_mem_cons.2 ⟨hc, hrun⟩) hstop h⟩

/-- The runs are the pieces between the other characters, as far as there is anything between them. -/
theorem eq_filter_splitOnP (h : Runs p cs runs) : runs = (cs.splitOnP (!p ·)).filter (!·.isEmpty) := by
  induction h with
  | nil => rfl
  | skip hc _ ih => simpa [List.splitOnP_cons_eq_if_modifyHead, hc] using ih
  | @run run rest runs hne hrun hstop _ ih =>
    have hpieces : ∃ pieces, rest.splitOnP (!p ·) = [] :: pieces := by
      cases rest with
      | nil => exact ⟨[], rfl⟩
      | cons d rest => exact ⟨rest.splitOnP (!p ·), by simp [List.splitOnP_cons_eq_if_modifyHead, hstop d rfl]⟩
    obtain ⟨pieces, hpieces⟩ := hpieces
    rw [splitOnP_append_of_forall (p := (!p ·)) (fun c hc => by simp [hrun c hc]), hpieces]
    rw [hpieces] at ih
    simpa [hne] using ih

/-- A run has nothing but characters of its kind. -/
theorem forall_mem (h : Runs p cs runs) : ∀ run ∈ runs, ∀ c ∈ run, p c = true := by
  induction h with
  | nil => simp
  | skip _ _ ih => exact ih
  | run _ hrun _ _ ih => exact List.forall_mem_cons.2 ⟨hrun, ih⟩

end Runs

end Text

/-! ## The parts of a number -/

/-- The digits of a number in the parts between its decimal marks. -/
def numberParts (cs : List Char) : List (List Char) :=
  match decimalMark? cs with
  | none => [cs.filter isDigit]
  | some mark => (cs.splitOn mark).map (·.filter isDigit)

/-- A run has a digit, and between the marks at its ends there is a number that can be read. -/
def IsReadable (run : List Char) : Prop :=
  run.any isDigit = true ∧ Decimal.Fits (numberParts (trimChars isMark run))

instance : DecidablePred IsReadable := fun run =>
  inferInstanceAs (Decidable (run.any isDigit = true ∧ Decimal.Fits (numberParts (trimChars isMark run))))

section Parts

variable {cs run : List Char} {mark : Char}

theorem isMark_of_decimalMark? (h : decimalMark? cs = some mark) : isMark mark = true := by
  have hlone : ∀ m, isMark m = true → loneMark? cs m = some mark → isMark mark = true := by
    intro m hm h
    unfold loneMark? at h
    split at h
    · cases h
    · cases h
      exact hm
  unfold decimalMark? at h
  dsimp only at h
  split at h
  · cases h
  split at h
  · split at h
    · cases h
    · exact hlone ',' rfl h
  split at h
  · split at h
    · cases h
    · exact hlone '.' rfl h
  · exact List.find?_some h

theorem filterMap_intercalate {α β : Type} (f : α → Option β) (separator : List α) : ∀ parts : List (List α),
    (separator.intercalate parts).filterMap f = (separator.filterMap f).intercalate (parts.map (List.filterMap f))
  | [] => rfl
  | [part] => by simp
  | part :: next :: parts => by
    rw [List.intercalate_cons_cons, List.map_cons, List.map_cons, List.intercalate_cons_cons, ← List.map_cons,
      ← filterMap_intercalate f separator (next :: parts)]
    simp

/-- Marks other than the decimal one, and nothing else, are left out of the parts. -/
theorem filterMap_eq_filter_isDigit (hchars : ∀ c ∈ cs, isNumberChar c = true) {f : Char → Option Char}
    (hf : ∀ c ∈ cs, isMark c = true → f c = none) :
    (cs.filterMap fun c => if !isMark c then some c else f c) = cs.filter isDigit := by
  rw [← List.filterMap_eq_filter]
  refine List.filterMap_congr fun c hc => ?_
  cases hmark : isMark c with
  | true =>
    have hdigit : isDigit c = false := by
      rw [Bool.eq_false_iff]
      intro hdigit
      rw [isMark_eq_false_of_isDigit hdigit] at hmark
      cases hmark
    simp [Option.guard, hf c hc hmark, hdigit]
  | false =>
    have hdigit : isDigit c = true := by simpa [isNumberChar, hmark] using hchars c hc
    simp [Option.guard, hdigit]

/-- A number that ends with a digit has a point for each decimal mark between its parts. -/
theorem plainNumber_eq_intercalate (hchars : ∀ c ∈ cs, isNumberChar c = true)
    (hlast : ∀ c ∈ cs.getLast?, isDigit c = true) : plainNumber cs = ['.'].intercalate (numberParts cs) := by
  have hparts : (cs.filterMap fun c =>
      if !isMark c then some c else if decimalMark? cs = some c then some '.' else none) =
        ['.'].intercalate (numberParts cs) := by
    unfold numberParts
    cases hdecimal : decimalMark? cs with
    | none => simpa using filterMap_eq_filter_isDigit hchars (f := fun c => if none = some c then some '.' else none)
    | some mark =>
      have hpieces : ∀ piece ∈ cs.splitOn mark,
          (piece.filterMap fun c => if !isMark c then some c else if some mark = some c then some '.' else none) =
            piece.filter isDigit := by
        intro piece hpiece
        rw [List.splitOn_eq_splitOnP] at hpiece
        refine filterMap_eq_filter_isDigit (fun c hc => hchars c (mem_of_mem_splitOnP hpiece hc)) fun c hc _ => ?_
        have hne : c ≠ mark := by simpa using eq_false_of_mem_splitOnP piece hpiece c hc
        exact if_neg fun h => hne (Option.some.inj h).symm
      dsimp only
      rw [← List.map_congr_left hpieces]
      have htext : cs = [mark].intercalate (cs.splitOn mark) := (List.intercalate_splitOn mark).symm
      conv_lhs => rw [htext, filterMap_intercalate]
      simp [isMark_of_decimalMark? hdecimal]
  have hpoint : (['.'].intercalate (numberParts cs)).getLast? ≠ some '.' := by
    rw [← hparts]
    rcases List.eq_nil_or_concat cs with rfl | ⟨front, c, rfl⟩
    · simp
    · have hc : isDigit c = true := hlast c (by simp)
      have hne : c ≠ '.' := by
        rintro rfl
        cases hc
      simp [isMark_eq_false_of_isDigit hc, hne]
  unfold plainNumber
  dsimp only
  rw [hparts]
  exact if_neg hpoint

/-- The parts have digits only, and of a number that starts with a digit the first part has some. -/
theorem exists_numberParts (hfirst : ∀ c ∈ cs.head?, isDigit c = true) (hne : cs ≠ []) :
    ∃ whole parts, numberParts cs = whole :: parts ∧ whole ≠ [] := by
  obtain ⟨c, rest, rfl⟩ := List.exists_cons_of_ne_nil hne
  have hc : isDigit c = true := hfirst c rfl
  unfold numberParts
  cases hdecimal : decimalMark? (c :: rest) with
  | none => exact ⟨_, [], rfl, by simp [hc]⟩
  | some mark =>
    have hmark : c ≠ mark := by
      rintro rfl
      have := isMark_of_decimalMark? hdecimal
      rw [isMark_eq_false_of_isDigit hc] at this
      cases this
    obtain ⟨piece, pieces, hrest⟩ := List.exists_cons_of_ne_nil (List.splitOnP_ne_nil (· == mark) rest)
    refine ⟨(c :: piece).filter isDigit, pieces.map (·.filter isDigit), ?_, by simp [hc]⟩
    simp [List.splitOn_eq_splitOnP, List.splitOnP_cons_eq_if_modifyHead, hmark, hrest]

theorem isDigit_of_mem_numberParts : ∀ part ∈ numberParts cs, ∀ c ∈ part, isDigit c = true := by
  unfold numberParts
  split <;> simp

/-- **What can be read** of a run, without the marks at its ends, is a number. -/
theorem isSome_readDecimal?_iff (hrun : ∀ c ∈ run, isNumberChar c = true) :
    (readDecimal? (trimChars isMark run)).isSome = true ↔ IsReadable run := by
  have hchars : ∀ c ∈ trimChars isMark run, isNumberChar c = true := fun c hc => hrun c (mem_of_mem_trimChars hc)
  have hdigit : ∀ c ∈ trimChars isMark run, isMark c = false → isDigit c = true := fun c hc hmark => by
    simpa [isNumberChar, hmark] using hchars c hc
  by_cases hany : run.any isDigit = true
  · have hne : trimChars isMark run ≠ [] := by
      obtain ⟨c, hc, hcdigit⟩ := List.any_eq_true.1 hany
      intro hnil
      have hmark := List.all_eq_true.1 (trimChars_eq_nil_iff.1 hnil) c hc
      rw [isMark_eq_false_of_isDigit hcdigit] at hmark
      cases hmark
    have hfirst : ∀ c ∈ (trimChars isMark run).head?, isDigit c = true := fun c hc =>
      hdigit c (List.mem_of_mem_head? hc) (trimChars_head? c hc)
    have hlast : ∀ c ∈ (trimChars isMark run).getLast?, isDigit c = true := fun c hc =>
      hdigit c (List.mem_of_mem_getLast? hc) (trimChars_getLast? c hc)
    obtain ⟨whole, parts, hparts, hwhole⟩ := exists_numberParts hfirst hne
    have hread : readDecimal? (trimChars isMark run) = Decimal.read? (['.'].intercalate (whole :: parts)) := by
      rw [← hparts, ← plainNumber_eq_intercalate hchars hlast]
      obtain ⟨c, rest, hcs⟩ := List.exists_cons_of_ne_nil hne
      refine readDecimal?_eq_read? hcs (hfirst c (by simp [hcs])) fun d hd => ?_
      simpa [isNumberChar] using hchars d hd
    rw [hread, Decimal.read?_isSome_iff hwhole (hparts ▸ isDigit_of_mem_numberParts), IsReadable, hparts]
    exact (and_iff_right hany).symm
  · have hnil : trimChars isMark run = [] := by
      rw [trimChars_eq_nil_iff, List.all_eq_true]
      intro c hc
      have hdigit : isDigit c = false := by
        rw [Bool.eq_false_iff]
        exact fun h => hany (List.any_eq_true.2 ⟨c, hc, h⟩)
      simpa [isNumberChar, hdigit] using hrun c hc
    rw [hnil]
    exact iff_of_false (by decide) fun h => hany h.1

end Parts

/-! ## The numbers of a text -/

section Numbers

variable {s : String} {runs runs' : List (List Char)} {run : List Char}

/-- What is found in a list stands for the members in which something is found. -/
theorem forall₂_filter_filterMap {α β : Type} (f : α → Option β) : ∀ xs : List α,
    List.Forall₂ (fun x y => f x = some y) (xs.filter fun x => (f x).isSome) (xs.filterMap f)
  | [] => .nil
  | x :: xs => by
    cases hx : f x with
    | none => simpa [List.filterMap_cons, hx] using forall₂_filter_filterMap f xs
    | some y => simpa [List.filterMap_cons, hx] using forall₂_filter_filterMap f xs

/-- The numbers of a text are those of its runs. -/
theorem numbersIn_eq_filterMap (h : Runs isNumberChar s.toList runs) :
    numbersIn s = runs.filterMap fun run => readDecimal? (trimChars isMark run) := by
  rw [h.eq_filter_splitOnP, numbersIn, splitWhere_eq_splitOnP, List.filterMap_map, List.filterMap_filter]
  refine List.filterMap_congr fun piece _ => ?_
  cases piece with
  | nil => rfl
  | cons c piece => rfl

theorem forall₂_numbersIn (h : Runs isNumberChar s.toList runs) :
    List.Forall₂ (fun run a => parseNumber? (String.ofList (trimChars isMark run)) = some a)
      (runs.filter (IsReadable ·)) (numbersIn s) := by
  have hreadable : runs.filter (IsReadable ·) =
      runs.filter fun run => (readDecimal? (trimChars isMark run)).isSome := by
    refine List.filter_congr fun run hrun => ?_
    rw [Bool.eq_iff_iff, decide_eq_true_eq, isSome_readDecimal?_iff (h.forall_mem run hrun)]
  rw [hreadable, numbersIn_eq_filterMap h]
  simpa only [parseNumber?, String.toList_ofList] using
    forall₂_filter_filterMap (fun run => readDecimal? (trimChars isMark run)) runs

theorem length_numbersIn (h : Runs isNumberChar s.toList runs) : (numbersIn s).length = runs.countP (IsReadable ·) := by
  rw [← (forall₂_numbersIn h).length_eq, List.countP_eq_length_filter]

/-- Every run with a digit has its number exactly when none of them is unreadable. -/
theorem length_numbersIn_eq_iff (h : Runs isNumberChar s.toList runs) :
    (numbersIn s).length = runs.countP (·.any isDigit) ↔ ∀ run ∈ runs, run.any isDigit = true → IsReadable run := by
  have hsplit : runs.countP (·.any isDigit) =
      runs.countP (IsReadable ·) + runs.countP fun run => run.any isDigit && !decide (IsReadable run) := by
    have hreadable : runs.countP (fun run => run.any isDigit && decide (IsReadable run)) =
        runs.countP (IsReadable ·) := by
      refine List.countP_congr fun run _ => ?_
      simp only [Bool.and_eq_true, decide_eq_true_eq]
      exact and_iff_right_of_imp And.left
    rw [List.countP_eq_countP_filter_add runs (·.any isDigit) (IsReadable ·), List.countP_filter, List.countP_filter,
      hreadable]
  rw [length_numbersIn h, hsplit, Nat.left_eq_add, List.countP_eq_zero]
  simp

end Numbers

namespace Disagreement

theorem rank_le_severity {d : Disagreement} (hdiffers : d.kind = .differs) (hgoods : d.category = .goodsDescription)
    (hlength : (numbersIn d.first.value).length ≠ (numbersIn d.second.value).length) (base : Severity) :
    Severity.high.rank ≤ (d.severity base).rank := by
  have hnumbers : d.numbersAgree = false := by simp [numbersAgree, hlength]
  have hraised : d.severity base = base.max .high := by simp [severity, hdiffers, hgoods, hnumbers]
  rw [hraised]
  cases base <;> decide

end Disagreement

/-- **The numbers found in a text** are those of its runs that can be read, in order; each run with a digit has its
number exactly when all these can be read. Goods that differ, and whose descriptions have not equally many runs that can
be read, are at least a high discrepancy under every table with a rule for goods. -/
theorem numbersIn_of_runs {s : String} {runs : List (List Char)} (hruns : Runs isNumberChar s.toList runs) :
    List.Forall₂ (fun run a => parseNumber? (String.ofList (trimChars isMark run)) = some a)
        (runs.filter (IsReadable ·)) (numbersIn s) ∧
      ((numbersIn s).length = runs.countP (·.any isDigit) ↔
        ∀ run ∈ runs, run.any isDigit = true → IsReadable run) ∧
      ∀ (d : Disagreement) (setId : String) (table : RuleTable) (runs' : List (List Char)),
        d.kind = .differs → d.category = .goodsDescription → (table.get? .goodsDescription).isSome = true →
          d.first.value = s → Runs isNumberChar d.second.value.toList runs' →
            runs.countP (IsReadable ·) ≠ runs'.countP (IsReadable ·) →
              ∃ j, d.classify setId table = .ok j ∧ Severity.high.rank ≤ j.severity.rank := by
  refine ⟨forall₂_numbersIn hruns, length_numbersIn_eq_iff hruns, ?_⟩
  rintro d setId table runs' hdiffers hgoods hrule rfl hruns' hcount
  obtain ⟨rule, hrule⟩ := Option.isSome_iff_exists.1 hrule
  rw [← hgoods] at hrule
  refine ⟨_, by rw [Disagreement.classify, hrule], ?_⟩
  refine d.rank_le_severity hdiffers hgoods ?_ rule.severity
  rwa [length_numbersIn hruns, length_numbersIn hruns']

/-- Goods of the credit and of an invoice. -/
def differingGoods (credit invoice : String) : Disagreement where
  kind := .differs
  first := ⟨.goodsDescription, ⟨0, .credit, none⟩, credit⟩
  second := ⟨.goodsDescription, ⟨1, .commercialInvoice, none⟩, invoice⟩
  isVariant := false

/-- A size is left out, next to a number that cannot be read for its two decimal marks. -/
theorem numbersIn_of_runs_size :
    (∃ runs, Runs isNumberChar "5,000 PIPES 1,2.3,4, SIZE 42.".toList runs ∧ runs.countP (IsReadable ·) = 2 ∧
      (numbersIn "5,000 PIPES 1,2.3,4, SIZE 42.").length ≠ runs.countP (·.any isDigit)) ∧
      ∃ j, (differingGoods "5,000 PIPES 1,2.3,4, SIZE 42." "5,000 PIPES 1,2.3,4").classify "S1" .ucp600 = .ok j ∧
        Severity.high.rank ≤ j.severity.rank := by
  obtain ⟨runs, hruns⟩ := Runs.exists_runs isNumberChar "5,000 PIPES 1,2.3,4, SIZE 42.".toList
  obtain ⟨runs', hruns'⟩ := Runs.exists_runs isNumberChar "5,000 PIPES 1,2.3,4".toList
  have hcount : runs.countP (IsReadable ·) = 2 := by
    rw [hruns.eq_filter_splitOnP]
    decide +kernel
  have hcount' : runs'.countP (IsReadable ·) = 1 := by
    rw [hruns'.eq_filter_splitOnP]
    decide +kernel
  refine ⟨⟨runs, hruns, hcount, ?_⟩, ?_⟩
  · rw [Ne, (numbersIn_of_runs hruns).2.1, hruns.eq_filter_splitOnP]
    decide +kernel
  · exact (numbersIn_of_runs hruns).2.2 (differingGoods _ _) "S1" .ucp600 runs' rfl rfl rfl rfl hruns' (by omega)

/-- A number of thirty digits is lost, and with it that the goods are not of the same lot. -/
theorem numbersIn_tooLong :
    ∃ runs runs' j, Runs isNumberChar "LOT 123456789012345678901234567890 PIPES".toList runs ∧
      Runs isNumberChar "LOT PIPES".toList runs' ∧ runs.countP (·.any isDigit) ≠ runs'.countP (·.any isDigit) ∧
      (numbersIn "LOT 123456789012345678901234567890 PIPES").length ≠ runs.countP (·.any isDigit) ∧
      (differingGoods "LOT 123456789012345678901234567890 PIPES" "LOT PIPES").classify "S1" .ucp600 = .ok j ∧
      ¬ Severity.high.rank ≤ j.severity.rank := by
  obtain ⟨runs, hruns⟩ := Runs.exists_runs isNumberChar "LOT 123456789012345678901234567890 PIPES".toList
  obtain ⟨runs', hruns'⟩ := Runs.exists_runs isNumberChar "LOT PIPES".toList
  refine ⟨runs, runs', _, hruns, hruns', ?_, ?_, rfl, ?_⟩
  · rw [hruns.eq_filter_splitOnP, hruns'.eq_filter_splitOnP]
    decide +kernel
  · rw [hruns.eq_filter_splitOnP]
    decide +kernel
  · decide +kernel

end DocumentaryCredit

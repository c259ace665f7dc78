/-
Reading decimals that fit: of at most 28 digits nothing is rounded away, so that the number read is the one that the
digits spell, with as many digits after the point as were written, and no number has more digits than its text.
-/
import DocumentaryCredit.Decimal
import DocumentaryCredit.Proofs.Text
import Mathlib.Data.List.Induction
import Mathlib.Tactic.Ring

namespace DocumentaryCredit

/-! ## Digits -/

namespace Text

theorem digitsValue_append_singleton (front : List Char) (c : Char) :
    digitsValue (front ++ [c]) = 10 * digitsValue front + digitValue c := by
  simp [digitsValue]

theorem digitValue_lt {c : Char} (h : isDigit c = true) : digitValue c < 10 := by
  have := isDigit_iff.1 h
  have hvalue : digitValue c = c.toNat - 48 := rfl
  omega

theorem digitsValue_lt {cs : List Char} (h : ∀ c ∈ cs, isDigit c = true) : digitsValue cs < 10 ^ cs.length := by
  induction cs using List.reverseRecOn with
  | nil => simp [digitsValue]
  | append_singleton cs c ih =>
    have hcs := ih fun d hd => h d (by simp [hd])
    have hc := digitValue_lt (h c (by simp))
    rw [digitsValue_append_singleton, List.length_append, List.length_singleton, Nat.pow_succ]
    omega

end Text

open Text

namespace Decimal

/-- The number is the one that digits before and after a decimal mark spell, and has the digits after the mark as its
fraction. -/
structure Spells (a : Decimal) (whole fraction : List Char) : Prop where
  mantissa : a.mantissa = digitsValue (whole ++ fraction)
  scale : a.scale = fraction.length

/-- A number of at most 28 digits fits. -/
theorem digitsValue_lt_limit {cs : List Char} (h : ∀ c ∈ cs, isDigit c = true) (hlength : cs.length ≤ 28) :
    digitsValue cs < 2 ^ 96 :=
  calc digitsValue cs
    _ < 10 ^ cs.length := digitsValue_lt h
    _ ≤ 10 ^ 28 := Nat.pow_le_pow_right (by decide) hlength
    _ < 2 ^ 96 := by decide

theorem exists_make? {whole fraction : List Char} (hdigits : ∀ c ∈ whole ++ fraction, isDigit c = true)
    (hlength : (whole ++ fraction).length ≤ 28) :
    ∃ a, make? (digitsValue (whole ++ fraction)) fraction.length = some a ∧ a.Spells whole fraction := by
  have hfits : digitsValue (whole ++ fraction) < 2 ^ 96 ∧ fraction.length ≤ 28 :=
    ⟨digitsValue_lt_limit hdigits hlength, by rw [List.length_append] at hlength; omega⟩
  exact ⟨⟨_, _, hfits.1, hfits.2⟩, dif_pos hfits, rfl, rfl⟩

theorem readDigits_cons {mantissa scale : Nat} {point : Bool} {c : Char} (hc : isDigit c = true)
    (hfits : 10 * mantissa + digitValue c < 2 ^ 96) (hscale : point = true → scale < 28) (rest : List Char) :
    readDigits mantissa scale point (c :: rest) =
      readDigits (10 * mantissa + digitValue c) (if point then scale + 1 else scale) point rest := by
  have hmore : ¬ (point && decide (scale ≥ 28)) = true := by
    simpa using hscale
  rw [readDigits, if_neg hmore, if_pos hc, if_pos hfits]

/-- Digits are read one after another, as long as the number fits. `front` are those already read. -/
theorem readDigits_append {rest : List Char} {point : Bool} : ∀ {digits front : List Char} {scale : Nat},
    (∀ c ∈ front ++ digits, isDigit c = true) → (front ++ digits).length ≤ 28 →
      (point = true → scale + digits.length ≤ 28) →
        readDigits (digitsValue front) scale point (digits ++ rest) =
          readDigits (digitsValue (front ++ digits)) (if point then scale + digits.length else scale) point rest
  | [], front, scale, _, _, _ => by simp
  | c :: digits, front, scale, hdigits, hlength, hscale => by
    rw [List.append_cons] at hdigits hlength ⊢
    have hfits : digitsValue (front ++ [c]) < 2 ^ 96 :=
      digitsValue_lt_limit (fun d hd => hdigits d (List.mem_append_left _ hd)) (by
        rw [List.length_append] at hlength
        omega)
    rw [digitsValue_append_singleton] at hfits
    rw [List.cons_append, readDigits_cons (hdigits c (by simp)) hfits fun hpoint => by
        have := hscale hpoint
        rw [List.length_cons] at this
        omega,
      ← digitsValue_append_singleton, readDigits_append hdigits hlength fun hpoint => by
        have := hscale hpoint
        rw [List.length_cons] at this
        rw [if_pos hpoint]
        omega]
    cases point with
    | false => simp
    | true => simp [Nat.add_assoc, Nat.add_comm 1]

theorem read?_append {whole : List Char} (hne : whole ≠ []) (hdigits : ∀ c ∈ whole, isDigit c = true)
    (hlength : whole.length ≤ 28) (rest : List Char) :
    Decimal.read? (whole ++ rest) =
      (readDigits (digitsValue whole) 0 false rest).bind fun (mantissa, scale) => make? mantissa scale := by
  have hread : readDigits (digitsValue []) 0 false (whole ++ rest) = readDigits (digitsValue whole) 0 false rest :=
    readDigits_append hdigits hlength (by simp)
  obtain ⟨c, digits, rfl⟩ := List.exists_cons_of_ne_nil hne
  rw [List.cons_append, Decimal.read?, if_pos (hdigits c (by simp)), ← List.cons_append]
  exact congrArg (Option.bind · _) hread

/-- What is written with a point is read as it is written. -/
theorem read?_point {whole fraction : List Char} (hne : whole ≠ [])
    (hdigits : ∀ c ∈ whole ++ fraction, isDigit c = true) (hlength : (whole ++ fraction).length ≤ 28) :
    ∃ a, Decimal.read? (whole ++ '.' :: fraction) = some a ∧ a.Spells whole fraction := by
  obtain ⟨a, hmake, hspells⟩ := exists_make? hdigits hlength
  have hlengths : whole.length ≤ 28 ∧ fraction.length ≤ 28 := by
    rw [List.length_append] at hlength
    omega
  have hwhole := read?_append hne (fun c hc => hdigits c (List.mem_append_left _ hc)) hlengths.1 ('.' :: fraction)
  have hfraction : readDigits (digitsValue whole) 0 true (fraction ++ []) =
      readDigits (digitsValue (whole ++ fraction)) (0 + fraction.length) true [] :=
    readDigits_append hdigits hlength (by simpa using hlengths.2)
  have hpoint : readDigits (digitsValue whole) 0 false ('.' :: fraction) =
      readDigits (digitsValue whole) 0 true fraction := rfl
  rw [List.append_nil] at hfraction
  refine ⟨a, ?_, hspells⟩
  rw [hwhole, hpoint, hfraction]
  simpa [readDigits] using hmake

/-- What is written without a point is a whole number. -/
theorem read?_whole {whole : List Char} (hne : whole ≠ []) (hdigits : ∀ c ∈ whole, isDigit c = true)
    (hlength : whole.length ≤ 28) : ∃ a, Decimal.read? whole = some a ∧ a.Spells whole [] := by
  rw [← List.append_nil whole] at hdigits hlength
  obtain ⟨a, hmake, hspells⟩ := exists_make? hdigits hlength
  rw [List.append_nil] at hdigits hlength hmake
  have hread := read?_append hne hdigits hlength []
  rw [List.append_nil] at hread
  refine ⟨a, ?_, hspells⟩
  rw [hread]
  simpa [readDigits] using hmake

/-! ## The size of what is read -/

/-- The number has at most `n` digits, before and after the point together. -/
structure HasDigits (a : Decimal) (n : Nat) : Prop where
  mantissa_lt : a.mantissa < 10 ^ n
  scale_le : a.scale ≤ n

theorem HasDigits.mono {a : Decimal} {n k : Nat} (h : a.HasDigits n) (hle : n ≤ k) : a.HasDigits k :=
  ⟨h.mantissa_lt.trans_le (Nat.pow_le_pow_right (by decide) hle), h.scale_le.trans hle⟩

/-- As long as they fit, the number read has the digits read before and those of the text, and no more. -/
theorem readDigits_lt : ∀ {cs : List Char} {point : Bool} {mantissa scale digits : Nat} {r : Nat × Nat},
    readDigits mantissa scale point cs = some r → mantissa < 10 ^ digits → scale ≤ digits →
      digits + cs.countP isDigit ≤ 28 → r.1 < 10 ^ (digits + cs.countP isDigit) ∧ r.2 ≤ digits + cs.countP isDigit
  | [], _, _, _, _, _, h, hmantissa, hscale, _ => by
    cases h
    exact ⟨hmantissa, hscale⟩
  | c :: rest, _, mantissa, _, digits, _, h, hmantissa, hscale, hlimit => by
    by_cases hc : isDigit c = true
    · rw [List.countP_cons_of_pos hc] at hlimit ⊢
      have hnext : 10 * mantissa + digitValue c < 10 ^ (digits + 1) := by
        have := digitValue_lt hc
        rw [Nat.pow_succ]
        omega
      have hfits : 10 * mantissa + digitValue c < 2 ^ 96 :=
        hnext.trans_le ((Nat.pow_le_pow_right (by decide) (show digits + 1 ≤ 28 by omega)).trans (by decide))
      rw [readDigits_cons hc hfits fun _ => by omega] at h
      rw [Nat.add_comm _ 1, ← Nat.add_assoc]
      exact readDigits_lt h hnext (by split <;> omega) (by omega)
    · rw [List.countP_cons_of_neg hc] at hlimit ⊢
      simp only [readDigits, hc] at h
      split at h
      · split at h
        · contradiction
        · split at h
          · cases h
            exact ⟨hmantissa.trans_le (Nat.pow_le_pow_right (by decide) (by omega)), by omega⟩
          · cases h
      · split at h
        · contradiction
        · split at h
          · exact readDigits_lt h hmantissa hscale hlimit
          · cases h

theorem read?_hasDigits {cs : List Char} {a : Decimal} (h : Decimal.read? cs = some a)
    (hlimit : cs.countP isDigit ≤ 28) : a.HasDigits (cs.countP isDigit) := by
  unfold Decimal.read? at h
  split at h
  · split at h
    · obtain ⟨⟨mantissa, scale⟩, hread, hmake⟩ := Option.bind_eq_some_iff.1 h
      have hnone : 0 < 10 ^ 0 := by decide
      obtain ⟨hmantissa, hscale⟩ := readDigits_lt hread hnone le_rfl (by omega)
      rw [Nat.zero_add] at hmantissa hscale
      simp only [make?] at hmake
      split at hmake
      · cases hmake
        exact ⟨hmantissa, hscale⟩
      · cases hmake
    · cases h
  · cases h

end Decimal

end DocumentaryCredit

/-
Which digits with points between them are read as a number, however many they are. Main statement: of the digits before
the first point all must fit; those behind it are rounded away where they stop fitting, so that nothing but a carry into
the digits before the point can fail, and a second point is refused unless the digits before it did stop fitting.
-/
import DocumentaryCredit.Proofs.Decimal

namespace DocumentaryCredit

open Text

namespace Text

/-- More digits spell no less. -/
theorem digitsValue_le_append (front back : List Char) : digitsValue front ≤ digitsValue (front ++ back) := by
  induction back using List.reverseRecOn with
  | nil => simp
  | append_singleton back c ih =>
    rw [← List.append_assoc, digitsValue_append_singleton]
    omega

end Text

namespace Decimal

/-- The digits between the points of a number that can be read. -/
def Fits : List (List Char) → Prop
  | [] => False
  | [whole] => digitsValue whole < 2 ^ 96
  | whole :: fraction :: more =>
    digitsValue whole < 2 ^ 96 ∧ ¬ (digitsValue whole = 2 ^ 96 - 1 ∧ fraction.head?.any (5 ≤ digitValue ·)) ∧
      (more = [] ∨ 28 ≤ fraction.length ∨ 2 ^ 96 ≤ digitsValue (whole ++ fraction))

instance : DecidablePred Fits
  | [] => inferInstanceAs (Decidable False)
  | [_] => inferInstanceAs (Decidable (_ < _))
  | _ :: _ :: _ => inferInstanceAs (Decidable (_ ∧ _ ∧ _))

section Reading

variable {mantissa scale : Nat} {rest : List Char}

/-! ## What is read fits -/

theorem roundBy_fits {next : Nat} {r : Nat × Nat} (h : roundBy mantissa scale next = some r)
    (hmantissa : mantissa < 2 ^ 96) (hscale : scale ≤ 28) : r.1 < 2 ^ 96 ∧ r.2 ≤ 28 := by
  unfold roundBy at h
  split at h
  · cases h
    exact ⟨hmantissa, hscale⟩
  split at h
  · cases h
    exact ⟨‹_›, hscale⟩
  split at h
  · cases h
  · cases h
    dsimp only
    exact ⟨by omega, by omega⟩

theorem readDigits_fits : ∀ {cs : List Char} {mantissa scale : Nat} {point : Bool} {r : Nat × Nat},
    readDigits mantissa scale point cs = some r → mantissa < 2 ^ 96 → scale ≤ 28 → r.1 < 2 ^ 96 ∧ r.2 ≤ 28
  | [], _, _, _, _, h, hmantissa, hscale => by
    cases h
    exact ⟨hmantissa, hscale⟩
  | c :: rest, mantissa, scale, point, _, h, hmantissa, hscale => by
    rw [readDigits] at h
    split at h
    · split at h
      · exact roundBy_fits h hmantissa hscale
      · split at h
        · cases h
          exact ⟨hmantissa, hscale⟩
        · cases h
    · next hmore =>
      have hnext : (if point then scale + 1 else scale) ≤ 28 := by
        cases point with
        | false => exact hscale
        | true =>
          have hroom : ¬ scale ≥ 28 := by simpa using hmore
          rw [if_pos rfl]
          omega
      split at h
      · dsimp only at h
        split at h
        · exact readDigits_fits h ‹_› hnext
        · split at h
          · exact roundBy_fits h hmantissa hscale
          · cases h
      · split at h
        · exact readDigits_fits h hmantissa hscale
        · cases h

theorem roundBy_isSome_iff {next : Nat} :
    (roundBy mantissa scale next).isSome = true ↔ next < 5 ∨ mantissa + 1 < 2 ^ 96 ∨ scale ≠ 0 := by
  unfold roundBy
  split
  · simp [*]
  split
  · simp [*]
  split <;> simp [*]

/-! ## Before and behind the first point -/

/-- Before a point the digits are read as long as they fit. `front` are those already read. -/
theorem readDigits_whole : ∀ {digits front : List Char}, (∀ c ∈ digits, isDigit c = true) →
    readDigits (digitsValue front) 0 false (digits ++ rest) =
      if digits = [] ∨ digitsValue (front ++ digits) < 2 ^ 96 then
        readDigits (digitsValue (front ++ digits)) 0 false rest
      else none
  | [], front, _ => by simp
  | c :: digits, front, hdigits => by
    have hle := digitsValue_le_append (front ++ [c]) digits
    rw [List.forall_mem_cons] at hdigits
    rw [List.append_cons, List.cons_append, readDigits, if_neg (by simp), if_pos hdigits.1]
    dsimp only
    rw [← digitsValue_append_singleton]
    by_cases hfits : digitsValue (front ++ [c]) < 2 ^ 96
    · have hdone : digits = [] → digitsValue (front ++ [c] ++ digits) < 2 ^ 96 := by
        rintro rfl
        simpa using hfits
      rw [if_pos hfits, if_neg (by simp), readDigits_whole hdigits.2]
      simp only [reduceCtorEq, false_or]
      exact if_congr ⟨fun h => h.elim hdone id, .inr⟩ rfl rfl
    · rw [if_neg hfits, if_neg (by simp), if_neg (by simp only [reduceCtorEq, false_or]; omega)]

/-- Behind a point the digits are read until they stop fitting; what follows is looked at only when they do not.
`front` are those already read. -/
theorem readDigits_fraction : ∀ {digits front : List Char} {scale : Nat}, (∀ c ∈ digits, isDigit c = true) →
    digitsValue front < 2 ^ 96 → scale ≤ 28 → (∀ c ∈ rest.head?, c = '.') →
      ((readDigits (digitsValue front) scale true (digits ++ rest)).isSome = true ↔
        ¬ (scale = 0 ∧ digitsValue front = 2 ^ 96 - 1 ∧ digits.head?.any (5 ≤ digitValue ·)) ∧
          (rest = [] ∨ 28 ≤ scale + digits.length ∨ 2 ^ 96 ≤ digitsValue (front ++ digits)))
  | [], front, scale, _, hfront, hscale, hrest => by
    cases rest with
    | nil => simp [readDigits]
    | cons c rest =>
      obtain rfl : c = '.' := hrest c rfl
      have hpoint : isDigit '.' = false := rfl
      by_cases hmore : scale ≥ 28
      · simp [readDigits, hmore, hpoint]
      · simp [readDigits, hmore, hpoint]
        omega
  | c :: digits, front, scale, hdigits, hfront, hscale, hrest => by
    rw [List.forall_mem_cons] at hdigits
    rw [List.cons_append, readDigits]
    by_cases hmore : scale ≥ 28
    · rw [if_pos (by simpa using hmore), if_pos hdigits.1, roundBy_isSome_iff]
      simp only [List.length_cons]
      constructor
      · exact fun _ => ⟨by omega, by omega⟩
      · exact fun _ => by omega
    have hvalue := digitsValue_append_singleton front c
    have hle := digitsValue_le_append (front ++ [c]) digits
    rw [if_neg (by simpa using hmore), if_pos hdigits.1, List.append_cons front]
    dsimp only
    rw [← hvalue]
    by_cases hfits : digitsValue (front ++ [c]) < 2 ^ 96
    · rw [if_pos hfits, if_pos rfl, readDigits_fraction hdigits.2 hfits (by omega) hrest, List.length_cons]
      have hroom : digitsValue front ≠ 2 ^ 96 - 1 := by omega
      simp only [hroom, Nat.succ_ne_zero, false_and, and_false, not_false_eq_true, true_and, Nat.add_assoc,
        Nat.add_comm 1]
    · rw [if_neg hfits, if_pos rfl, roundBy_isSome_iff, List.head?_cons, Option.any_some, decide_eq_true_eq]
      constructor
      · exact fun h => ⟨by omega, by omega⟩
      · rintro ⟨h, -⟩
        omega

end Reading

/-! ## What can be read -/

/-- Behind the first part stands a point if there are more. -/
theorem exists_intercalate_cons (part : List Char) (parts : List (List Char)) :
    ∃ rest, ['.'].intercalate (part :: parts) = part ++ rest ∧
      (parts = [] ∧ rest = [] ∨ parts ≠ [] ∧ rest = '.' :: ['.'].intercalate parts) := by
  cases parts with
  | nil => exact ⟨[], by simp⟩
  | cons next parts => exact ⟨'.' :: ['.'].intercalate (next :: parts), by simp [List.intercalate_cons_cons]⟩

/-- All digits that were read make a number. -/
theorem isSome_read?_cons {c : Char} (hc : isDigit c = true) (cs : List Char) :
    (Decimal.read? (c :: cs)).isSome = (readDigits 0 0 false (c :: cs)).isSome := by
  rw [Decimal.read?, if_pos hc]
  cases hread : readDigits 0 0 false (c :: cs) with
  | none => rfl
  | some r =>
    have hmake : make? r.1 r.2 = some _ := dif_pos (readDigits_fits hread (by decide) (by decide))
    rw [Option.bind_some]
    exact congrArg Option.isSome hmake

/-- **Digits with points between them** are read as a number exactly when they fit. -/
theorem read?_isSome_iff {whole : List Char} {parts : List (List Char)} (hne : whole ≠ [])
    (hdigits : ∀ part ∈ whole :: parts, ∀ c ∈ part, isDigit c = true) :
    (Decimal.read? (['.'].intercalate (whole :: parts))).isSome = true ↔ Fits (whole :: parts) := by
  rw [List.forall_mem_cons] at hdigits
  obtain ⟨rest, htext, hrest⟩ := exists_intercalate_cons whole parts
  have hread : (Decimal.read? (whole ++ rest)).isSome = (readDigits (digitsValue []) 0 false (whole ++ rest)).isSome := by
    obtain ⟨c, cs, rfl⟩ := List.exists_cons_of_ne_nil hne
    exact isSome_read?_cons (hdigits.1 c (by simp)) (cs ++ rest)
  rw [htext, hread, readDigits_whole hdigits.1, List.nil_append]
  simp only [hne, false_or]
  by_cases hwhole : digitsValue whole < 2 ^ 96
  · rw [if_pos hwhole]
    cases parts with
    | nil =>
      obtain ⟨-, rfl⟩ | ⟨hparts, -⟩ := hrest
      · simpa [Fits, readDigits] using hwhole
      · exact absurd rfl hparts
    | cons fraction more =>
      obtain ⟨hparts, -⟩ | ⟨-, rfl⟩ := hrest
      · cases hparts
      obtain ⟨behind, htext, hbehind⟩ := exists_intercalate_cons fraction more
      have hpoint : readDigits (digitsValue whole) 0 false ('.' :: ['.'].intercalate (fraction :: more)) =
          readDigits (digitsValue whole) 0 true (fraction ++ behind) := by
        rw [htext]
        rfl
      have hfraction := hdigits.2 fraction (by simp)
      have hnone : behind = [] ↔ more = [] := by
        obtain ⟨rfl, rfl⟩ | ⟨hne, rfl⟩ := hbehind
        · simp
        · simp [hne]
      have hstop : ∀ c ∈ behind.head?, c = '.' := by
        obtain ⟨-, rfl⟩ | ⟨-, rfl⟩ := hbehind <;> simp
      rw [hpoint, readDigits_fraction hfraction hwhole (by decide) hstop, hnone, Nat.zero_add]
      simp only [true_and]
      exact ⟨fun h => ⟨hwhole, h⟩, And.right⟩
  · rw [if_neg hwhole]
    simp only [Option.isSome_none, Bool.false_eq_true, false_iff]
    cases parts with
    | nil => exact hwhole
    | cons fraction more => exact fun h => hwhole h.1

end Decimal

end DocumentaryCredit

/-
Arithmetic that fits is exact: a number below 2^96 with at most 28 digits after the point loses no digit, so that sums,
products and hundredths of numbers with few digits are those of the rational numbers. The ceiling that a tolerance makes
of such an amount is the amount and the given hundredths of it.
-/
import DocumentaryCredit.Presentation.Value
import DocumentaryCredit.Proofs.Decimal
import DocumentaryCredit.Proofs.Order

namespace DocumentaryCredit

namespace Decimal

theorem ofDigits?_of_lt {n scale : Nat} (hn : n < 2 ^ 96) (hscale : scale ≤ 28) :
    ofDigits? n scale = some ⟨n, scale, hn, hscale⟩ := by
  have hkept : max (excessDigits n) (scale - 28) = 0 := by
    rw [excessDigits, if_pos hn]
    omega
  have hrounded : roundHalfEven n 0 = n := by simp [roundHalfEven, Nat.mod_one]
  simp only [ofDigits?, hkept, hrounded, Nat.not_lt_zero, if_false, if_pos hn]
  exact dif_pos ⟨hn, hscale⟩

variable {a b : Decimal}

theorem exists_mul? (hmantissa : a.mantissa * b.mantissa < 2 ^ 96) (hscale : a.scale + b.scale ≤ 28) :
    ∃ c, a.mul? b = some c ∧ c.mantissa = a.mantissa * b.mantissa ∧ c.scale = a.scale + b.scale ∧
      c.toRat = a.toRat * b.toRat := by
  refine ⟨_, ofDigits?_of_lt hmantissa hscale, rfl, rfl, ?_⟩
  simp only [toRat]
  push_cast
  rw [div_mul_div_comm, pow_add]

theorem exists_hundredth? (hscale : a.scale + 2 ≤ 28) :
    ∃ c, a.hundredth? = some c ∧ c.mantissa = a.mantissa ∧ c.scale = a.scale + 2 ∧ c.toRat = a.toRat / 100 := by
  refine ⟨_, ofDigits?_of_lt a.mantissa_lt hscale, rfl, rfl, ?_⟩
  simp only [toRat]
  rw [div_div, pow_add]
  norm_num

theorem exists_add? (hscale : a.scale ≤ b.scale)
    (hmantissa : a.mantissa * 10 ^ (b.scale - a.scale) + b.mantissa < 2 ^ 96) :
    ∃ c, a.add? b = some c ∧ c.toRat = a.toRat + b.toRat := by
  refine ⟨⟨_, b.scale, hmantissa, b.scale_le⟩, ?_, ?_⟩
  · simp only [add?, Nat.max_eq_right hscale, Nat.sub_self, Nat.pow_zero, Nat.mul_one]
    exact ofDigits?_of_lt hmantissa b.scale_le
  · have hpow : (10 : ℚ) ^ b.scale = 10 ^ (b.scale - a.scale) * 10 ^ a.scale := by
      rw [← pow_add, Nat.sub_add_cancel hscale]
    simp only [toRat]
    push_cast
    rw [add_div, hpow, mul_comm, mul_div_mul_left _ _ (by positivity)]

end Decimal

/-- An amount of at most 15 digits, widened by a percentage of at most two, is the amount and so many hundredths of it:
nothing of it is rounded away. -/
theorem Tolerance.exists_ceiling? {t : Tolerance} {base : Decimal} (hbase : base.HasDigits 15)
    (hplus : t.plus.mantissa < 100) (hscale : t.plus.scale = 0) :
    ∃ c, t.ceiling? base = some c ∧ c.toRat = base.toRat * (100 + t.plus.mantissa) / 100 := by
  have hmantissa := hbase.mantissa_lt
  have hdigits := hbase.scale_le
  have hproduct : base.mantissa * t.plus.mantissa < 10 ^ 15 * 100 := Nat.mul_lt_mul'' hmantissa hplus
  obtain ⟨product, hmul, hm, hs, hvalue⟩ := Decimal.exists_mul? (a := base) (b := t.plus) (by omega) (by omega)
  obtain ⟨margin, hhundredth, hm', hs', hvalue'⟩ := Decimal.exists_hundredth? (a := product) (by omega)
  obtain ⟨c, hadd, hsum⟩ := Decimal.exists_add? (a := base) (b := margin) (by omega) (by
    rw [show margin.scale - base.scale = 2 by omega]
    omega)
  refine ⟨c, ?_, ?_⟩
  · simp only [ceiling?, hmul, hhundredth, hadd, Option.bind_eq_bind, Option.bind_some]
  · have hpercent : t.plus.toRat = t.plus.mantissa := by simp [Decimal.toRat, hscale]
    rw [hsum, hvalue', hvalue, hpercent]
    ring

end DocumentaryCredit

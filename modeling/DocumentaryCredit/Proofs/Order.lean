/-
Numbers and days as what they stand for: a decimal is a rational number, whatever zeros it is written with, and
days are ordered by year, month and day.
-/
import DocumentaryCredit.Calendar
import DocumentaryCredit.Decimal
import Mathlib.Algebra.Order.Field.Rat
import Mathlib.Data.Prod.Lex
import Mathlib.Tactic.NormNum

namespace DocumentaryCredit

namespace Decimal

/-- The rational number that a decimal stands for. -/
def toRat (a : Decimal) : ℚ := a.mantissa / 10 ^ a.scale

theorem exceeds_iff {a b : Decimal} : a.exceeds b = true ↔ b.toRat < a.toRat := by
  unfold exceeds toRat
  rw [decide_eq_true_iff, div_lt_div_iff₀ (by positivity) (by positivity)]
  exact_mod_cast Iff.rfl

theorem sameValue_iff {a b : Decimal} : a.sameValue b = true ↔ a.toRat = b.toRat := by
  unfold sameValue toRat
  rw [beq_iff_eq, div_eq_div_iff (by positivity) (by positivity)]
  exact_mod_cast Iff.rfl

end Decimal

namespace Date

/-- The year, month and day, the first of them that differs deciding which of two days is the earlier. -/
def key (d : Date) : ℤ ×ₗ ℕ ×ₗ ℕ := toLex (d.year, toLex (d.month, d.day))

theorem before_iff {a b : Date} : a.before b = true ↔ a.key < b.key := by
  unfold before key
  simp [Prod.Lex.toLex_lt_toLex]

end Date

end DocumentaryCredit

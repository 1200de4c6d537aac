import Mathlib.Algebra.Order.Field.Power
import Mathlib.Data.Rat.Cast.Order
import Mathlib.Tactic.FieldSimp
import Mathlib.Tactic.Linarith
import Mathlib.Tactic.Positivity
import Mathlib.Tactic.Ring
import Switchboard.Decimal.Shortest

namespace Switchboard.Decimal

/-!
# Values of ratios, numbers and figures

Ratios, binary numbers and decimal figures are compared by cross multiplication of natural
numbers.  Here each of them gets its value as a rational number, and the comparisons become
comparisons of values.
-/

namespace Ratio

/-- What a ratio amounts to. -/
def value (ratio : Ratio) : ℚ :=
  ratio.numerator / ratio.denominator

/-- A ratio that does not divide by zero. -/
def Proper (ratio : Ratio) : Prop :=
  0 < ratio.denominator

theorem proper_ofNat (number : Nat) :
    Proper { numerator := number, denominator := 1 } :=
  Nat.one_pos

theorem value_ofNat (number : Nat) :
    value { numerator := number, denominator := 1 } = number := by
  simp [value]

theorem Proper.scale
    {ratio : Ratio}
    (proper : ratio.Proper)
    {base : Nat}
    (positive : 0 < base)
    (power : Int) :
    (ratio.scale base power).Proper := by
  unfold Ratio.scale
  split
  · exact proper
  · exact Nat.mul_pos proper (Nat.pow_pos positive)

theorem value_scale
    {base : Nat}
    (positive : 0 < base)
    (ratio : Ratio)
    (power : Int) :
    (ratio.scale base power).value = ratio.value * (base : ℚ) ^ power := by
  have nonzero : (base : ℚ) ≠ 0 := by positivity
  unfold Ratio.scale value
  split
  · rename_i nonnegative
    obtain ⟨exponent, rfl⟩ := Int.eq_ofNat_of_zero_le nonnegative
    simp only [Int.toNat_natCast, Nat.pow_eq, Nat.cast_mul, Nat.cast_pow, zpow_natCast]
    ring
  · rename_i negative
    obtain ⟨exponent, isOpposite⟩ := Int.eq_ofNat_of_zero_le (by omega : 0 ≤ -power)
    have isPower : power = -(exponent : ℤ) := by omega
    subst isPower
    simp only [neg_neg, Int.toNat_natCast, Nat.pow_eq, Nat.cast_mul, Nat.cast_pow, zpow_neg,
      zpow_natCast]
    field_simp

theorem le_iff
    {left right : Ratio}
    (properLeft : left.Proper)
    (properRight : right.Proper) :
    left.le right = true ↔ left.value ≤ right.value := by
  have positiveLeft : (0 : ℚ) < left.denominator := by exact_mod_cast properLeft
  have positiveRight : (0 : ℚ) < right.denominator := by exact_mod_cast properRight
  unfold Ratio.le value
  rw [decide_eq_true_iff, div_le_div_iff₀ positiveLeft positiveRight]
  exact_mod_cast Iff.rfl

end Ratio

namespace Dyadic

/-- What a number amounts to. -/
def value (number : Dyadic) : ℚ :=
  number.mantissa * (2 : ℚ) ^ number.exponent

theorem proper_toRatio (number : Dyadic) : number.toRatio.Proper :=
  (Ratio.proper_ofNat _).scale (by decide) _

theorem value_toRatio (number : Dyadic) : number.toRatio.value = number.value := by
  unfold toRatio value
  rw [Ratio.value_scale (by decide), Ratio.value_ofNat]
  norm_num

end Dyadic

namespace Figure

/-- What a figure amounts to. -/
def value (figure : Figure) : ℚ :=
  figure.digits * (10 : ℚ) ^ figure.exponent

theorem proper_toRatio (figure : Figure) : figure.toRatio.Proper :=
  (Ratio.proper_ofNat _).scale (by decide) _

theorem value_toRatio (figure : Figure) : figure.toRatio.value = figure.value := by
  unfold toRatio value
  rw [Ratio.value_scale (by decide), Ratio.value_ofNat]
  norm_num

/-- Stripping zeros off the end does not change the value. -/
theorem value_stripZeros (fuel : Nat) (figure : Figure) :
    (figure.stripZeros fuel).value = figure.value := by
  induction fuel generalizing figure with
  | zero => rfl
  | succ fuel inductionHypothesis =>
      unfold stripZeros
      split
      · rename_i strips
        rw [inductionHypothesis]
        have exact : figure.digits = 10 * (figure.digits / 10) := by omega
        have exactValue : (figure.digits : ℚ) = 10 * (figure.digits / 10 : ℕ) := by
          exact_mod_cast exact
        unfold value
        rw [exactValue, zpow_add₀ (by norm_num)]
        ring
      · rfl

end Figure

/-- A value lies in an interval, with or without the ends. -/
def Interval.Covers (interval : Interval) (value : ℚ) : Prop :=
  if interval.closed then
    interval.low.value ≤ value ∧ value ≤ interval.high.value
  else
    interval.low.value < value ∧ value < interval.high.value

theorem Interval.holds_iff
    {interval : Interval}
    {ratio : Ratio}
    (properLow : interval.low.Proper)
    (properHigh : interval.high.Proper)
    (proper : ratio.Proper) :
    interval.holds ratio = true ↔ interval.Covers ratio.value := by
  unfold holds Covers
  split
  · rw [Bool.and_eq_true, Ratio.le_iff properLow proper, Ratio.le_iff proper properHigh]
  · rw [Bool.and_eq_true, Bool.not_eq_true', Bool.not_eq_true', ← Bool.not_eq_true,
      ← Bool.not_eq_true, Ratio.le_iff proper properLow, Ratio.le_iff properHigh proper,
      not_le, not_le]

theorem Interval.Covers.bounds
    {interval : Interval}
    {value : ℚ}
    (covers : interval.Covers value) :
    interval.low.value ≤ value ∧ value ≤ interval.high.value := by
  unfold Covers at covers
  split at covers
  · exact covers
  · exact ⟨covers.1.le, covers.2.le⟩

end Switchboard.Decimal

import Mathlib.Algebra.Order.Field.Power
import Switchboard.Proofs.Decimal.Bounds

namespace Switchboard.Decimal

/-!
# The shortest figure stands for its number

Seventeen digits are finer than the interval of any number is wide.  So a figure is found on one
of the grids that are tried, and it lies in the interval of the number; since no two intervals
share a value, the number is the only one that the figure stands for.
-/

theorem onGrid?_covers
    {number : Dyadic}
    {exponent : Int}
    {figure : Figure}
    (chosen : onGrid? number.toRatio number.interval exponent = some figure) :
    number.interval.Covers figure.value := by
  have covers
      {candidate : Figure}
      (held : number.interval.holds candidate.toRatio = true) :
      number.interval.Covers candidate.value := by
    rw [← Figure.value_toRatio]
    exact (Interval.holds_iff number.proper_low number.proper_high candidate.proper_toRatio).mp
      held
  unfold onGrid? at chosen
  dsimp only at chosen
  split at chosen
  · cases chosen
  · rename_i heldBelow _
    cases chosen
    exact covers heldBelow
  · rename_i _ heldAbove
    cases chosen
    exact covers heldAbove
  · rename_i heldBelow heldAbove
    split at chosen
    · cases chosen
      exact covers heldBelow
    · cases chosen
      exact covers heldAbove

/-- Rounding down on a grid stays within one step of the value. -/
theorem floor_onGrid
    {ratio : Ratio}
    (proper : ratio.Proper)
    (exponent : Int) :
    let scaled := ratio.scale 10 (-exponent)
    let floor := scaled.numerator / scaled.denominator
    (floor : ℚ) * (10 : ℚ) ^ exponent ≤ ratio.value ∧
      ratio.value < (floor + 1 : ℚ) * (10 : ℚ) ^ exponent := by
  intro scaled floor
  have positive : 0 < scaled.denominator := proper.scale (by decide) _
  have positiveCast : (0 : ℚ) < scaled.denominator := by exact_mod_cast positive
  have step : (0 : ℚ) < (10 : ℚ) ^ exponent := by positivity
  have isValue : ratio.value = scaled.value * (10 : ℚ) ^ exponent := by
    rw [Ratio.value_scale (by decide), zpow_neg]
    field_simp
    norm_num
  have atLeast : (floor : ℚ) ≤ scaled.value := by
    rw [Ratio.value, le_div_iff₀ positiveCast]
    exact_mod_cast Nat.div_mul_le_self _ _
  have below : scaled.value < floor + 1 := by
    rw [Ratio.value, div_lt_iff₀ positiveCast]
    exact_mod_cast (Nat.div_lt_iff_lt_mul positive).mp (Nat.lt_succ_self floor)
  rw [isValue]
  exact ⟨mul_le_mul_of_nonneg_right atLeast step.le, mul_lt_mul_of_pos_right below step⟩

/-- A grid that is finer than an interval is wide has a figure in it. -/
theorem onGrid?_isSome
    {number : Dyadic}
    {exponent : Int}
    (inside :
      number.interval.low.value < number.value ∧ number.value < number.interval.high.value)
    (fine :
      (10 : ℚ) ^ exponent < number.interval.high.value - number.interval.low.value) :
    (onGrid? number.toRatio number.interval exponent).isSome = true := by
  obtain ⟨atLeast, below⟩ := floor_onGrid number.proper_toRatio exponent
  rw [number.value_toRatio] at atLeast below
  unfold onGrid?
  dsimp only
  split
  · rename_i heldBelow heldAbove
    -- Both neighbours would be outside, on either side of the interval, and too far apart.
    rw [← Bool.not_eq_true, Interval.holds_iff number.proper_low number.proper_high
      (Figure.proper_toRatio _), Figure.value_toRatio] at heldBelow heldAbove
    have ends : ∀ value, ¬number.interval.Covers value →
        value ≤ number.interval.low.value ∨ number.interval.high.value ≤ value := by
      intro value notCovered
      by_contra strictlyInside
      push Not at strictlyInside
      apply notCovered
      unfold Interval.Covers
      split
      · exact ⟨strictlyInside.1.le, strictlyInside.2.le⟩
      · exact strictlyInside
    have lower := (ends _ heldBelow).resolve_right (by
      simp only [Figure.value]
      linarith [inside.2])
    have upper := (ends _ heldAbove).resolve_left (by
      simp only [Figure.value, Nat.cast_add, Nat.cast_one]
      linarith [inside.1])
    simp only [Figure.value, Nat.cast_add, Nat.cast_one, add_mul, one_mul] at lower upper
    linarith
  · rfl
  · rfl
  · split <;> rfl

theorem firstFigure_covers
    {number : Dyadic}
    {grids : Nat}
    {exponent : Int}
    {step : Nat}
    (inReach : step < grids)
    (found :
      (onGrid? number.toRatio number.interval (exponent - step)).isSome = true) :
    number.interval.Covers
      (firstFigure number.toRatio number.interval grids exponent).value := by
  induction grids generalizing exponent step with
  | zero => cases inReach
  | succ grids inductionHypothesis =>
      unfold firstFigure
      cases chosen : onGrid? number.toRatio number.interval exponent with
      | some figure =>
          exact onGrid?_covers chosen
      | none =>
          cases step with
          | zero =>
              rw [Nat.cast_zero, sub_zero, chosen] at found
              cases found
          | succ step =>
              apply inductionHypothesis (Nat.lt_of_succ_lt_succ inReach)
              rw [← found]
              congr 2
              push_cast
              ring

/-- Lifting by the leading zeros reaches one, if the fuel would. -/
theorem one_le_leadingZeros
    {fuel : Nat}
    {ratio : Ratio}
    (proper : ratio.Proper)
    (enough : 1 ≤ ratio.value * (10 : ℚ) ^ fuel) :
    1 ≤ ratio.value * (10 : ℚ) ^ leadingZeros fuel ratio := by
  induction fuel generalizing ratio with
  | zero => exact enough
  | succ fuel inductionHypothesis =>
      have positive : (0 : ℚ) < ratio.denominator := by exact_mod_cast proper
      unfold leadingZeros
      split
      · rename_i reached
        rw [pow_zero, mul_one, Ratio.value, one_le_div positive]
        exact_mod_cast reached
      · have lifted :
            Ratio.value { ratio with numerator := 10 * ratio.numerator } =
              10 * ratio.value := by
          simp only [Ratio.value, Nat.cast_mul, Nat.cast_ofNat]
          ring
        have later := @inductionHypothesis { ratio with numerator := 10 * ratio.numerator } proper
          (by
            rw [lifted, mul_comm 10, mul_assoc, ← pow_succ']
            exact enough)
        rwa [lifted, mul_comm 10, mul_assoc, ← pow_succ'] at later

/-- The power of ten of the leading digit is at most the value. -/
theorem zpow_leading_le
    {ratio : Ratio}
    (proper : ratio.Proper)
    (enough : 1 ≤ ratio.value * (10 : ℚ) ^ 400) :
    (10 : ℚ) ^ ratio.leading ≤ ratio.value := by
  have positive : (0 : ℚ) < ratio.denominator := by exact_mod_cast proper
  unfold Ratio.leading
  split
  · rename_i reached
    have quotientPositive : 0 < ratio.numerator / ratio.denominator :=
      Nat.div_pos reached proper
    generalize isQuotient : ratio.numerator / ratio.denominator = quotient at quotientPositive
    have power : 10 ^ (digitCount quotient - 1) ≤ quotient := by
      by_contra tooLarge
      rw [not_le] at tooLarge
      have lengthPositive : 0 < digitCount quotient := Nat.length_toDigits_pos
      by_cases single : digitCount quotient = 1
      · rw [single] at tooLarge
        omega
      · have shorter : digitCount quotient ≤ digitCount quotient - 1 :=
          (Nat.length_toDigits_le_iff (by decide) (by omega)).mpr tooLarge
        omega
    have isExponent :
        ((digitCount quotient : ℤ) - 1) = ((digitCount quotient - 1 : ℕ) : ℤ) := by
      have lengthPositive : 0 < digitCount quotient := Nat.length_toDigits_pos
      omega
    rw [isExponent, zpow_natCast, Ratio.value, le_div_iff₀ positive]
    have product : 10 ^ (digitCount quotient - 1) * ratio.denominator ≤ ratio.numerator := by
      rw [← Nat.le_div_iff_mul_le proper, isQuotient]
      exact power
    exact_mod_cast product
  · have lifted := one_le_leadingZeros proper enough
    rw [zpow_neg, zpow_natCast, inv_le_iff_one_le_mul₀ (by positivity)]
    linarith

namespace Dyadic

theorem least_le_atPlace_exponent (place : Nat) : -1074 ≤ (atPlace place).exponent := by
  unfold atPlace
  split
  · exact le_refl _
  · show (-1074 : ℤ) ≤ (place / 2 ^ 52 : Nat) - 1075
    omega

theorem inside
    {number : Dyadic}
    (positive : 0 < number.mantissa) :
    number.interval.low.value < number.value ∧ number.value < number.interval.high.value := by
  have unit : (0 : ℚ) < (2 : ℚ) ^ (number.exponent - 2) := by positivity
  have away : (0 : ℚ) < number.below := by exact_mod_cast number.below_pos
  have isValue : number.value = (4 * number.mantissa : ℚ) * (2 : ℚ) ^ (number.exponent - 2) := by
    rw [value, zpow_sub₀ (by norm_num)]
    ring
  rw [low_value positive, high_value, isValue]
  constructor
  · apply mul_lt_mul_of_pos_right _ unit
    linarith
  · apply mul_lt_mul_of_pos_right _ unit
    linarith

/-- Sixteen digits after the leading one are finer than the interval is wide. -/
theorem sixteen_digits_fine
    {number : Dyadic}
    (positive : 0 < number.mantissa)
    (normal : number.mantissa < 2 ^ 53)
    {exponent : Int}
    (leading : (10 : ℚ) ^ exponent ≤ number.value) :
    (10 : ℚ) ^ (exponent - 16) < number.interval.high.value - number.interval.low.value := by
  have unit : (0 : ℚ) < (2 : ℚ) ^ (number.exponent - 2) := by positivity
  have isValue : number.value = (4 * number.mantissa : ℚ) * (2 : ℚ) ^ (number.exponent - 2) := by
    rw [value, zpow_sub₀ (by norm_num)]
    ring
  have isWidth : number.interval.high.value - number.interval.low.value =
      (number.below + 2 : ℚ) * (2 : ℚ) ^ (number.exponent - 2) := by
    rw [low_value positive, high_value]
    ring
  have coarse : (4 * number.mantissa : ℚ) < (number.below + 2 : ℚ) * 10 ^ 16 := by
    have natural : 4 * number.mantissa < (number.below + 2) * 10 ^ 16 := by
      unfold below
      split
      · omega
      · omega
    exact_mod_cast natural
  have power : (10 : ℚ) ^ (exponent - 16) * 10 ^ 16 = (10 : ℚ) ^ exponent := by
    rw [zpow_sub₀ (by norm_num)]
    norm_num
  rw [isWidth]
  have product := mul_lt_mul_of_pos_right coarse unit
  rw [isValue] at leading
  nlinarith

end Dyadic

/-- The shortest figure of a positive number lies in its interval. -/
theorem shortest_covers
    {bits : UInt64}
    (positive : 0 < bits.toNat)
    (unsigned : bits.toNat < 2 ^ 63) :
    (Dyadic.atPlace bits.toNat).interval.Covers (shortest bits).value := by
  have mantissaPositive := Dyadic.atPlace_mantissa_pos positive
  have enough : 1 ≤ (Dyadic.atPlace bits.toNat).value * (10 : ℚ) ^ 400 := by
    have one : (1 : ℚ) ≤ (Dyadic.atPlace bits.toNat).mantissa := by
      exact_mod_cast mantissaPositive
    have least : (2 : ℚ) ^ (-1074 : ℤ) ≤ (2 : ℚ) ^ (Dyadic.atPlace bits.toNat).exponent :=
      zpow_le_zpow_right₀ (by norm_num) (Dyadic.least_le_atPlace_exponent _)
    have product : (2 : ℚ) ^ (-1074 : ℤ) ≤ (Dyadic.atPlace bits.toNat).value := by
      unfold Dyadic.value
      have unit : (0 : ℚ) < (2 : ℚ) ^ (-1074 : ℤ) := by positivity
      nlinarith
    have powers : (2 : ℚ) ^ 1074 ≤ (10 : ℚ) ^ 400 :=
      calc
        (2 : ℚ) ^ 1074 ≤ (2 : ℚ) ^ (3 * 400) :=
          pow_le_pow_right₀ (by norm_num) (by norm_num)
        _ = ((2 : ℚ) ^ 3) ^ 400 := pow_mul _ _ _
        _ ≤ (10 : ℚ) ^ 400 := pow_le_pow_left₀ (by norm_num) (by norm_num) _
    have fuel : (1 : ℚ) ≤ (2 : ℚ) ^ (-1074 : ℤ) * (10 : ℚ) ^ 400 := by
      rw [zpow_neg, le_inv_mul_iff₀ (by positivity), mul_one]
      exact powers
    exact fuel.trans (mul_le_mul_of_nonneg_right product (by positivity))
  have proper := (Dyadic.atPlace bits.toNat).proper_toRatio
  rw [← Dyadic.value_toRatio] at enough
  have leading := zpow_leading_le proper enough
  rw [Dyadic.value_toRatio] at leading
  have found := onGrid?_isSome (Dyadic.inside mantissaPositive)
    (Dyadic.sixteen_digits_fine mantissaPositive (Dyadic.atPlace_mantissa_lt _) leading)
  unfold shortest
  rw [Figure.value_stripZeros, Dyadic.ofBits_eq_atPlace unsigned]
  exact firstFigure_covers (by decide : 16 < 17) found

/-- Two positive numbers with the shortest figures of one value are the same. -/
theorem shortest_injective
    {first second : UInt64}
    (positiveFirst : 0 < first.toNat)
    (positiveSecond : 0 < second.toNat)
    (unsignedFirst : first.toNat < 2 ^ 63)
    (unsignedSecond : second.toNat < 2 ^ 63)
    (same : (shortest first).value = (shortest second).value) :
    first = second := by
  apply UInt64.toNat_inj.mp
  have coversFirst := shortest_covers positiveFirst unsignedFirst
  rw [same] at coversFirst
  exact Dyadic.place_eq_of_covers positiveFirst positiveSecond coversFirst
    (shortest_covers positiveSecond unsignedSecond)

end Switchboard.Decimal

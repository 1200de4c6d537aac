import Mathlib.Order.Monotone.Basic
import Mathlib.Tactic.NormNum
import Switchboard.Proofs.Decimal.Ratio

namespace Switchboard.Decimal

/-!
# Intervals of neighbours

The positive numbers in their order are numbered by their bits.  Where the interval of one number
ends the interval of the next one begins, and the end that they share belongs to the one with the
even mantissa; so no value lies in the intervals of two numbers.
-/

namespace Dyadic

/-- The number whose bits amount to `place`, counted beyond infinity as well. -/
def atPlace (place : Nat) : Dyadic :=
  if place / 2 ^ 52 = 0 then
    { mantissa := place % 2 ^ 52, exponent := -1074 }
  else
    { mantissa := 2 ^ 52 + place % 2 ^ 52, exponent := (place / 2 ^ 52 : Nat) - 1075 }

theorem ofBits_eq_atPlace
    {bits : UInt64}
    (unsigned : bits.toNat < 2 ^ 63) :
    ofBits bits = atPlace bits.toNat := by
  have unit : exponentUnit = 2 ^ 52 := rfl
  have biased : bits.toNat / 2 ^ 52 % 0x800 = bits.toNat / 2 ^ 52 := by omega
  simp only [ofBits, atPlace, unit, biased]

theorem atPlace_mantissa_pos
    {place : Nat}
    (positive : 0 < place) :
    0 < (atPlace place).mantissa := by
  unfold atPlace
  split
  · show 0 < place % 2 ^ 52
    omega
  · show 0 < 2 ^ 52 + place % 2 ^ 52
    omega

theorem atPlace_mantissa_lt (place : Nat) : (atPlace place).mantissa < 2 ^ 53 := by
  unfold atPlace
  split
  · show place % 2 ^ 52 < 2 ^ 53
    omega
  · show 2 ^ 52 + place % 2 ^ 52 < 2 ^ 53
    omega

theorem atPlace_mantissa_parity (place : Nat) :
    (atPlace place).mantissa % 2 = place % 2 := by
  unfold atPlace
  split
  · show place % 2 ^ 52 % 2 = place % 2
    omega
  · show (2 ^ 52 + place % 2 ^ 52) % 2 = place % 2
    omega

/-- How many quarters of its unit a number is from the lower end of its interval. -/
def below (number : Dyadic) : Nat :=
  if number.mantissa = 2 ^ 52 ∧ -1074 < number.exponent then 1 else 2

theorem below_pos (number : Dyadic) : 0 < number.below := by
  unfold below
  split <;> decide

theorem proper_low (number : Dyadic) : number.interval.low.Proper :=
  (Ratio.proper_ofNat _).scale (by decide) _

theorem proper_high (number : Dyadic) : number.interval.high.Proper :=
  (Ratio.proper_ofNat _).scale (by decide) _

theorem low_value
    {number : Dyadic}
    (positive : 0 < number.mantissa) :
    number.interval.low.value =
      (4 * number.mantissa - number.below : ℚ) * (2 : ℚ) ^ (number.exponent - 2) := by
  have atMost : number.below ≤ 4 * number.mantissa := by
    unfold below
    split <;> omega
  have isLow : number.interval.low =
      Ratio.scale { numerator := 4 * number.mantissa - number.below, denominator := 1 } 2
        (number.exponent - 2) := rfl
  rw [isLow, Ratio.value_scale (by decide), Ratio.value_ofNat, Nat.cast_sub atMost]
  norm_num

theorem low_pos
    {number : Dyadic}
    (positive : 0 < number.mantissa) :
    0 < number.interval.low.value := by
  have unit : (0 : ℚ) < (2 : ℚ) ^ (number.exponent - 2) := by positivity
  have atMost : (number.below : ℚ) ≤ 2 := by
    unfold below
    split <;> norm_num
  have one : (1 : ℚ) ≤ number.mantissa := by exact_mod_cast positive
  rw [low_value positive]
  apply mul_pos _ unit
  linarith

theorem high_value (number : Dyadic) :
    number.interval.high.value =
      (4 * number.mantissa + 2 : ℚ) * (2 : ℚ) ^ (number.exponent - 2) := by
  have isHigh : number.interval.high =
      Ratio.scale { numerator := 4 * number.mantissa + 2, denominator := 1 } 2
        (number.exponent - 2) := rfl
  rw [isHigh, Ratio.value_scale (by decide), Ratio.value_ofNat]
  norm_num

theorem low_lt_high
    {number : Dyadic}
    (positive : 0 < number.mantissa) :
    number.interval.low.value < number.interval.high.value := by
  have unit : (0 : ℚ) < (2 : ℚ) ^ (number.exponent - 2) := by positivity
  have away : (0 : ℚ) < number.below := by exact_mod_cast number.below_pos
  rw [low_value positive, high_value]
  apply mul_lt_mul_of_pos_right _ unit
  linarith

/-- Where the interval of a number ends, the one of the next number begins. -/
theorem high_eq_low_next
    {place : Nat}
    (positive : 0 < place) :
    (atPlace place).interval.high.value = (atPlace (place + 1)).interval.low.value := by
  rw [high_value, low_value (atPlace_mantissa_pos (Nat.succ_pos place))]
  by_cases carries : place % 2 ^ 52 + 1 = 2 ^ 52
  · have nextFraction : (place + 1) % 2 ^ 52 = 0 := by omega
    have nextBiased : (place + 1) / 2 ^ 52 = place / 2 ^ 52 + 1 := by omega
    have fraction : place % 2 ^ 52 = 2 ^ 52 - 1 := by omega
    by_cases subnormal : place / 2 ^ 52 = 0
    · have nextExponent : ((0 + 1 : Nat) : ℤ) - 1075 = -1074 := by norm_num
      simp only [atPlace, below, nextFraction, nextBiased, fraction, subnormal, nextExponent,
        Nat.succ_ne_zero, if_true, if_false, Nat.add_zero, lt_irrefl, and_false]
      generalize (2 : ℚ) ^ ((-1074 : ℤ) - 2) = unit
      push_cast
      ring
    · obtain ⟨biased, isBiased⟩ : ∃ biased, place / 2 ^ 52 = biased + 1 :=
        ⟨place / 2 ^ 52 - 1, by omega⟩
      have exponents : (2 : ℚ) ^ (((biased + 1 + 1 : Nat) : ℤ) - 1075 - 2) =
          2 * (2 : ℚ) ^ (((biased + 1 : Nat) : ℤ) - 1075 - 2) := by
        rw [← zpow_one_add₀ (by norm_num)]
        congr 1
        push_cast
        ring
      have above : (-1074 : ℤ) < ((biased + 1 + 1 : Nat) : ℤ) - 1075 := by omega
      simp only [atPlace, below, nextFraction, nextBiased, fraction, isBiased,
        Nat.succ_ne_zero, if_false, Nat.add_zero, above, and_self, if_true, exponents]
      push_cast
      ring
  · have nextFraction : (place + 1) % 2 ^ 52 = place % 2 ^ 52 + 1 := by omega
    have nextBiased : (place + 1) / 2 ^ 52 = place / 2 ^ 52 := by omega
    by_cases subnormal : place / 2 ^ 52 = 0
    · have notLeast : ¬(place % 2 ^ 52 + 1 = 2 ^ 52 ∧ (-1074 : ℤ) < -1074) := by omega
      simp only [atPlace, below, nextFraction, nextBiased, subnormal, if_true, notLeast,
        if_false]
      generalize (2 : ℚ) ^ ((-1074 : ℤ) - 2) = unit
      push_cast
      ring
    · have notLeast : ¬(2 ^ 52 + (place % 2 ^ 52 + 1) = 2 ^ 52 ∧
          (-1074 : ℤ) < (place / 2 ^ 52 : Nat) - 1075) := by omega
      simp only [atPlace, below, nextFraction, nextBiased, subnormal, notLeast, if_false]
      push_cast
      ring

theorem low_strictMono :
    StrictMono fun place => (atPlace (place + 1)).interval.low.value := by
  apply strictMono_nat_of_lt_succ
  intro place
  rw [← high_eq_low_next (Nat.succ_pos place)]
  exact low_lt_high (atPlace_mantissa_pos (Nat.succ_pos place))

/-- A value that two numbers cover is not covered by the smaller one of them. -/
private theorem not_covers_of_lt
    {smaller larger : Nat}
    {value : ℚ}
    (positive : 0 < smaller)
    (order : smaller < larger)
    (coversSmaller : (atPlace smaller).interval.Covers value)
    (coversLarger : (atPlace larger).interval.Covers value) :
    False := by
  obtain ⟨place, rfl⟩ : ∃ place, larger = place + 1 := ⟨larger - 1, by omega⟩
  have atMost := (coversSmaller.bounds).2
  have atLeast := (coversLarger.bounds).1
  rw [high_eq_low_next positive] at atMost
  have reaches : place ≤ smaller :=
    low_strictMono.le_iff_le.mp (atLeast.trans atMost)
  obtain rfl : place = smaller := by omega
  have isEnd : value = (atPlace place).interval.high.value := by
    rw [high_eq_low_next positive]
    exact le_antisymm atMost atLeast
  have isStart : value = (atPlace (place + 1)).interval.low.value :=
    le_antisymm atMost atLeast
  -- The shared end would belong to both numbers, and both mantissas would be even.
  have evenSmaller : (atPlace place).interval.closed = true := by
    unfold Interval.Covers at coversSmaller
    split at coversSmaller
    · assumption
    · exact absurd isEnd coversSmaller.2.ne
  have evenLarger : (atPlace (place + 1)).interval.closed = true := by
    unfold Interval.Covers at coversLarger
    split at coversLarger
    · assumption
    · exact absurd isStart.symm coversLarger.1.ne
  have paritySmaller := atPlace_mantissa_parity place
  have parityLarger := atPlace_mantissa_parity (place + 1)
  have zeroSmaller : (atPlace place).mantissa % 2 = 0 := of_decide_eq_true evenSmaller
  have zeroLarger : (atPlace (place + 1)).mantissa % 2 = 0 := of_decide_eq_true evenLarger
  omega

/-- No value is covered by two numbers. -/
theorem place_eq_of_covers
    {first second : Nat}
    {value : ℚ}
    (positiveFirst : 0 < first)
    (positiveSecond : 0 < second)
    (coversFirst : (atPlace first).interval.Covers value)
    (coversSecond : (atPlace second).interval.Covers value) :
    first = second := by
  rcases Nat.lt_trichotomy first second with before | same | after
  · exact (not_covers_of_lt positiveFirst before coversFirst coversSecond).elim
  · exact same
  · exact (not_covers_of_lt positiveSecond after coversSecond coversFirst).elim

end Dyadic

end Switchboard.Decimal

import Switchboard.Json.Writer
import Switchboard.Proofs.Decimal.Reading

namespace Switchboard.Json

/-!
# Texts of numbers

Different numbers have different texts: integers are written without a point and an exponent and
floating point numbers with one of them, zeros with different signs are told apart, and the
shortest digits of a floating point number stand for no other.
-/

open Decimal (AllDigits PointedText isNumeric amount)

def signed (negative : Bool) (body : List Char) : List Char :=
  if negative then '-' :: body else body

/-- A sign is told apart from what follows it, which starts with a digit. -/
theorem signed_injective
    {negativeFirst negativeSecond : Bool}
    {first second : List Char}
    (digitFirst : ∃ digit rest, first = digit :: rest ∧ digit.isDigit = true)
    (digitSecond : ∃ digit rest, second = digit :: rest ∧ digit.isDigit = true)
    (same : signed negativeFirst first = signed negativeSecond second) :
    negativeFirst = negativeSecond ∧ first = second := by
  obtain ⟨digitOne, restOne, rfl, isDigitOne⟩ := digitFirst
  obtain ⟨digitTwo, restTwo, rfl, isDigitTwo⟩ := digitSecond
  cases negativeFirst with
  | false =>
      cases negativeSecond with
      | false => exact ⟨rfl, same⟩
      | true =>
          cases same
          cases isDigitOne
  | true =>
      cases negativeSecond with
      | false =>
          cases same
          cases isDigitTwo
      | true => exact ⟨rfl, (List.cons.inj same).2⟩

theorem signed_numeric
    {negative : Bool}
    {body : List Char}
    (numeric : ∀ char ∈ body, isNumeric char = true) :
    ∀ char ∈ signed negative body, isNumeric char = true := by
  cases negative with
  | false => exact numeric
  | true =>
      intro char member
      rcases List.mem_cons.mp member with rfl | inBody
      · rfl
      · exact numeric char inBody

theorem toDigits_digitFirst (number : Nat) :
    ∃ digit rest, Nat.toDigits 10 number = digit :: rest ∧ digit.isDigit = true := by
  obtain ⟨digit, rest, isText⟩ :=
    List.exists_cons_of_ne_nil (Nat.toDigits_ne_nil (n := number) (b := 10))
  refine ⟨digit, rest, isText, Decimal.allDigits_toDigits number digit ?_⟩
  rw [isText]
  exact List.mem_cons_self

theorem integerChars_eq (value : Int) :
    integerChars value = signed (decide (value < 0)) (Nat.toDigits 10 value.natAbs) := by
  unfold integerChars signed
  by_cases negative : value < 0
  · simp only [negative, if_true, decide_true]
  · simp only [negative, if_false, decide_false, Bool.false_eq_true]

theorem integerChars_injective : Function.Injective integerChars := by
  intro first second same
  rw [integerChars_eq, integerChars_eq] at same
  obtain ⟨sameSign, sameDigits⟩ :=
    signed_injective (toDigits_digitFirst _) (toDigits_digitFirst _) same
  have sameNumber : first.natAbs = second.natAbs := by
    rw [← Nat.ofDigitChars_ten_toDigits (n := first.natAbs), sameDigits,
      Nat.ofDigitChars_ten_toDigits]
  have sameNegative : first < 0 ↔ second < 0 := decide_eq_decide.mp sameSign
  omega

def sizeChars (size : UInt64) : List Char :=
  if size = 0 then ['0', '.', '0'] else numberLayout.write (Decimal.shortest size)

theorem floatChars_eq (bits : UInt64) :
    floatChars bits =
      signed (Decimal.isNegative bits) (sizeChars (Decimal.magnitude bits)) := rfl

theorem pointedText_sizeChars (size : UInt64) : PointedText (sizeChars size) := by
  unfold sizeChars
  split
  · have digitZero : AllDigits ['0'] := Decimal.allDigits_zeros 1
    exact Decimal.pointedText_pointed digitZero (List.cons_ne_nil _ _) Nat.one_pos
  · exact Decimal.pointedText_write rfl rfl _

/-- The text of a magnitude amounts to nothing just for zero. -/
theorem amount_sizeChars
    {size : UInt64}
    (unsigned : size.toNat < 2 ^ 63) :
    (size = 0 ∧ amount (sizeChars size) = 0) ∨
      (0 < size.toNat ∧ 0 < amount (sizeChars size) ∧
        amount (sizeChars size) = (Decimal.shortest size).value) := by
  unfold sizeChars
  split
  · rename_i isZero
    left
    refine ⟨isZero, ?_⟩
    have digitZero : AllDigits ['0'] := Decimal.allDigits_zeros 1
    have noNumber : Nat.ofDigitChars 10 ['0'] 0 = 0 := rfl
    show amount (Decimal.pointed ['0'] 1) = 0
    rw [Decimal.amount_plain (by decide), Decimal.mantissaAmount_pointed digitZero, noNumber,
      Nat.cast_zero, zero_mul]
  · rename_i notZero
    right
    have positive : 0 < size.toNat := by
      rw [Nat.pos_iff_ne_zero]
      intro isZero
      exact notZero (UInt64.toNat_inj.mp isZero)
    rw [Decimal.amount_write rfl rfl]
    refine ⟨positive, ?_, rfl⟩
    have atLeast := ((Decimal.shortest_covers positive unsigned).bounds).1
    exact (Decimal.Dyadic.low_pos (Decimal.Dyadic.atPlace_mantissa_pos positive)).trans_le atLeast

theorem sizeChars_injective
    {first second : UInt64}
    (unsignedFirst : first.toNat < 2 ^ 63)
    (unsignedSecond : second.toNat < 2 ^ 63)
    (same : sizeChars first = sizeChars second) :
    first = second := by
  have sameAmount : amount (sizeChars first) = amount (sizeChars second) := by rw [same]
  rcases amount_sizeChars unsignedFirst with
    ⟨zeroFirst, noneFirst⟩ | ⟨positiveFirst, someFirst, valueFirst⟩
  · rcases amount_sizeChars unsignedSecond with
      ⟨zeroSecond, _⟩ | ⟨_, someSecond, _⟩
    · rw [zeroFirst, zeroSecond]
    · rw [← sameAmount, noneFirst] at someSecond
      exact absurd someSecond (lt_irrefl 0)
  · rcases amount_sizeChars unsignedSecond with
      ⟨_, noneSecond⟩ | ⟨positiveSecond, _, valueSecond⟩
    · rw [sameAmount, noneSecond] at someFirst
      exact absurd someFirst (lt_irrefl 0)
    · exact Decimal.shortest_injective positiveFirst positiveSecond unsignedFirst unsignedSecond
        (valueFirst.symm.trans (sameAmount.trans valueSecond))

theorem magnitude_toNat (bits : UInt64) :
    (Decimal.magnitude bits).toNat = bits.toNat % 2 ^ 63 := by
  unfold Decimal.magnitude Decimal.signUnit
  rw [UInt64.toNat_ofNat']
  omega

theorem floatChars_injective : Function.Injective floatChars := by
  intro first second same
  rw [floatChars_eq, floatChars_eq] at same
  obtain ⟨sameSign, sameDigits⟩ :=
    signed_injective (pointedText_sizeChars _).digitFirst (pointedText_sizeChars _).digitFirst same
  have boundFirst : (Decimal.magnitude first).toNat < 2 ^ 63 := by
    rw [magnitude_toNat]
    omega
  have boundSecond : (Decimal.magnitude second).toNat < 2 ^ 63 := by
    rw [magnitude_toNat]
    omega
  have sameSize := congrArg UInt64.toNat (sizeChars_injective boundFirst boundSecond sameDigits)
  rw [magnitude_toNat, magnitude_toNat] at sameSize
  have sameNegative : 2 ^ 63 ≤ first.toNat ↔ 2 ^ 63 ≤ second.toNat :=
    decide_eq_decide.mp sameSign
  have finiteFirst := first.toNat_lt
  have finiteSecond := second.toNat_lt
  apply UInt64.toNat_inj.mp
  omega

theorem integerChars_ne_floatChars (value : Int) (bits : UInt64) :
    integerChars value ≠ floatChars bits := by
  intro same
  rw [integerChars_eq, floatChars_eq] at same
  have pointed := pointedText_sizeChars (Decimal.magnitude bits)
  obtain ⟨_, sameBody⟩ := signed_injective (toDigits_digitFirst _) pointed.digitFirst same
  obtain ⟨mark, member, isMark⟩ := pointed.marked
  rw [← sameBody] at member
  exact (Decimal.allDigits_toDigits _).not_mem isMark member

theorem Number.chars_injective : Function.Injective Number.chars := by
  intro first second same
  cases first with
  | integer first =>
      cases second with
      | integer second => exact congrArg Number.integer (integerChars_injective same)
      | float bits => exact absurd same (integerChars_ne_floatChars first bits)
  | float bits =>
      cases second with
      | integer second => exact absurd same.symm (integerChars_ne_floatChars second bits)
      | float other => exact congrArg Number.float (floatChars_injective same)

theorem Number.chars_numeric (number : Number) :
    ∀ char ∈ number.chars, isNumeric char = true := by
  cases number with
  | integer value =>
      show ∀ char ∈ integerChars value, isNumeric char = true
      rw [integerChars_eq]
      exact signed_numeric (Decimal.allDigits_toDigits _).numeric
  | float bits =>
      show ∀ char ∈ floatChars bits, isNumeric char = true
      rw [floatChars_eq]
      exact signed_numeric (pointedText_sizeChars _).numeric

theorem Number.chars_ne_nil (number : Number) : number.chars ≠ [] := by
  cases number with
  | integer value =>
      obtain ⟨digit, rest, isText, _⟩ := toDigits_digitFirst value.natAbs
      show integerChars value ≠ []
      rw [integerChars_eq, isText]
      cases decide (value < 0) <;> simp [signed]
  | float bits =>
      obtain ⟨digit, rest, isText, _⟩ :=
        (pointedText_sizeChars (Decimal.magnitude bits)).digitFirst
      show floatChars bits ≠ []
      rw [floatChars_eq, isText]
      cases Decimal.isNegative bits <;> simp [signed]

end Switchboard.Json

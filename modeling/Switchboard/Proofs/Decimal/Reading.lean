import Mathlib.Data.List.TakeWhile
import Switchboard.Proofs.Decimal.Shortest

namespace Switchboard.Decimal

/-!
# Reading figures

A text of digits, with a point and an exponent if need be, amounts to a rational number.  Whatever
way a layout takes to write a figure, the text amounts to the value of the figure, so figures of
different values are written differently.
-/

/-- The digits of a text as one number. -/
def wholeDigits (text : List Char) : Nat :=
  Nat.ofDigitChars 10 (text.filter Char.isDigit) 0

/-- How many characters come after the point. -/
def pointPlaces (text : List Char) : Nat :=
  ((text.dropWhile (· ≠ '.')).drop 1).length

/-- What digits with or without a point amount to. -/
def mantissaAmount (text : List Char) : ℚ :=
  wholeDigits text / (10 : ℚ) ^ pointPlaces text

/-- What an exponent with its mark and sign amounts to. -/
def exponentAmount : List Char → ℤ
  | 'e' :: '-' :: digits => -(Nat.ofDigitChars 10 digits 0 : ℤ)
  | 'e' :: '+' :: digits => Nat.ofDigitChars 10 digits 0
  | _ => 0

/-- What a text of a number amounts to. -/
def amount (text : List Char) : ℚ :=
  mantissaAmount (text.takeWhile (· ≠ 'e')) *
    (10 : ℚ) ^ exponentAmount (text.dropWhile (· ≠ 'e'))

def AllDigits (text : List Char) : Prop :=
  ∀ char ∈ text, char.isDigit = true

theorem allDigits_toDigits (number : Nat) : AllDigits (Nat.toDigits 10 number) :=
  fun _ member => Nat.isDigit_of_mem_toDigits (by decide) (by decide) member

theorem allDigits_zeros (count : Nat) : AllDigits (List.replicate count '0') := by
  intro char member
  rw [List.eq_of_mem_replicate member]
  decide

theorem AllDigits.append
    {first second : List Char}
    (digitsFirst : AllDigits first)
    (digitsSecond : AllDigits second) :
    AllDigits (first ++ second) := by
  intro char member
  rcases List.mem_append.mp member with inFirst | inSecond
  · exact digitsFirst char inFirst
  · exact digitsSecond char inSecond

theorem AllDigits.not_mem
    {text : List Char}
    (digits : AllDigits text)
    {char : Char}
    (other : char.isDigit = false) :
    char ∉ text := by
  intro member
  cases (digits char member).symm.trans other

theorem AllDigits.filter
    {text : List Char}
    (digits : AllDigits text) :
    text.filter Char.isDigit = text :=
  List.filter_eq_self.mpr digits

theorem takeWhile_ne_append
    {text rest : List Char}
    {stop : Char}
    (before : stop ∉ text) :
    (text ++ stop :: rest).takeWhile (· ≠ stop) = text ∧
      (text ++ stop :: rest).dropWhile (· ≠ stop) = stop :: rest := by
  have all : ∀ char ∈ text, decide (char ≠ stop) = true := by
    intro char member
    apply decide_eq_true
    rintro rfl
    exact before member
  rw [List.takeWhile_append_of_pos all, List.dropWhile_append_of_pos all]
  simp

theorem takeWhile_ne_self
    {text : List Char}
    {stop : Char}
    (absent : stop ∉ text) :
    text.takeWhile (· ≠ stop) = text ∧ text.dropWhile (· ≠ stop) = [] := by
  have all : ∀ char ∈ text, decide (char ≠ stop) = true := by
    intro char member
    apply decide_eq_true
    rintro rfl
    exact absent member
  exact ⟨List.takeWhile_eq_self_iff.mpr all, List.dropWhile_eq_nil_iff.mpr all⟩

theorem mantissaAmount_whole
    {digits : List Char}
    (allDigits : AllDigits digits) :
    mantissaAmount digits = Nat.ofDigitChars 10 digits 0 := by
  unfold mantissaAmount wholeDigits pointPlaces
  rw [allDigits.filter, (takeWhile_ne_self (allDigits.not_mem rfl)).2]
  simp

/-- The digits after the point are divided by their number of tens. -/
theorem mantissaAmount_point
    {whole fraction : List Char}
    (digitsWhole : AllDigits whole)
    (digitsFraction : AllDigits fraction) :
    mantissaAmount (whole ++ '.' :: fraction) =
      Nat.ofDigitChars 10 (whole ++ fraction) 0 / (10 : ℚ) ^ fraction.length := by
  unfold mantissaAmount wholeDigits pointPlaces
  rw [(takeWhile_ne_append (digitsWhole.not_mem rfl)).2, List.filter_append,
    List.filter_cons_of_neg (by decide), digitsWhole.filter, digitsFraction.filter,
    List.drop_one, List.tail_cons]

theorem ofDigitChars_append_zeros
    (digits : List Char)
    (count : Nat) :
    Nat.ofDigitChars 10 (digits ++ List.replicate count '0') 0 =
      Nat.ofDigitChars 10 digits 0 * 10 ^ count := by
  rw [Nat.ofDigitChars_append, Nat.ofDigitChars_replicate_zero, Nat.mul_comm]

theorem ofDigitChars_zeros_append
    (count : Nat)
    (digits : List Char) :
    Nat.ofDigitChars 10 (List.replicate count '0' ++ digits) 0 =
      Nat.ofDigitChars 10 digits 0 := by
  rw [Nat.ofDigitChars_append, Nat.ofDigitChars_replicate_zero, Nat.mul_zero]

/-- Digits with a point are the number of the digits, divided by ten for each one after the point
and multiplied by ten for each one that is missing before it. -/
theorem mantissaAmount_pointed
    {digits : List Char}
    (allDigits : AllDigits digits)
    (before : Nat) :
    mantissaAmount (pointed digits before) =
      Nat.ofDigitChars 10 digits 0 * (10 : ℚ) ^ ((before : ℤ) - digits.length) := by
  unfold pointed
  split
  · rename_i allBefore
    have reaches : digits.length ≤ before := List.drop_eq_nil_iff.mp allBefore
    obtain ⟨missing, rfl⟩ := Nat.exists_eq_add_of_le reaches
    have exponent : ((digits.length + missing : ℕ) : ℤ) - digits.length = missing := by
      push_cast
      ring
    have digitZero : AllDigits ['0'] := allDigits_zeros 1
    rw [mantissaAmount_point (allDigits.append (allDigits_zeros _)) digitZero,
      Nat.add_sub_cancel_left, List.append_assoc, exponent, zpow_natCast]
    have zeros : List.replicate missing '0' ++ ['0'] = List.replicate (missing + 1) '0' :=
      List.replicate_succ'.symm
    rw [zeros, ofDigitChars_append_zeros]
    simp only [List.length_singleton, Nat.cast_mul, Nat.cast_pow, pow_succ, pow_zero]
    push_cast
    ring
  · rename_i someAfter
    have fewer : before < digits.length := by
      by_contra reaches
      exact someAfter (List.drop_eq_nil_iff.mpr (not_lt.mp reaches))
    have digitsWhole : AllDigits (digits.take before) :=
      fun char member => allDigits char (List.mem_of_mem_take member)
    have digitsFraction : AllDigits (digits.drop before) :=
      fun char member => allDigits char (List.mem_of_mem_drop member)
    rw [mantissaAmount_point digitsWhole digitsFraction, List.take_append_drop,
      List.length_drop, div_eq_mul_inv, ← zpow_natCast, ← zpow_neg]
    congr 2
    omega

theorem exponentAmount_of_mark
    {layout : Layout}
    (positiveMark : layout.exponentMark = "e+")
    (negativeMark : layout.negativeMark = "e-")
    (exponent : Int) :
    exponentAmount
        ((if exponent < 0 then layout.negativeMark else layout.exponentMark).toList ++
          Nat.toDigits 10 exponent.natAbs) =
      exponent := by
  rw [positiveMark, negativeMark]
  split
  · show -(Nat.ofDigitChars 10 (Nat.toDigits 10 exponent.natAbs) 0 : ℤ) = exponent
    rw [Nat.ofDigitChars_ten_toDigits]
    omega
  · show (Nat.ofDigitChars 10 (Nat.toDigits 10 exponent.natAbs) 0 : ℤ) = exponent
    rw [Nat.ofDigitChars_ten_toDigits]
    omega

/-- A fraction that starts with zeros is the number of its digits, divided by ten for each one. -/
theorem mantissaAmount_fraction
    {digits : List Char}
    (allDigits : AllDigits digits)
    (zeros : Nat) :
    mantissaAmount ('0' :: '.' :: (List.replicate zeros '0' ++ digits)) =
      Nat.ofDigitChars 10 digits 0 * (10 : ℚ) ^ (-(zeros + digits.length : ℤ)) := by
  have digitZero : AllDigits ['0'] := allDigits_zeros 1
  have allZeros : ['0'] ++ (List.replicate zeros '0' ++ digits) =
      List.replicate (zeros + 1) '0' ++ digits := rfl
  have split := mantissaAmount_point digitZero ((allDigits_zeros zeros).append allDigits)
  rw [allZeros, ofDigitChars_zeros_append, List.length_append, List.length_replicate,
    div_eq_mul_inv, ← zpow_natCast, ← zpow_neg] at split
  exact_mod_cast split

theorem amount_marked
    {mantissa others : List Char}
    (plain : 'e' ∉ mantissa) :
    amount (mantissa ++ 'e' :: others) =
      mantissaAmount mantissa * (10 : ℚ) ^ exponentAmount ('e' :: others) := by
  unfold amount
  rw [(takeWhile_ne_append plain).1, (takeWhile_ne_append plain).2]

theorem amount_plain
    {text : List Char}
    (plain : 'e' ∉ text) :
    amount text = mantissaAmount text := by
  unfold amount
  rw [(takeWhile_ne_self plain).1, (takeWhile_ne_self plain).2]
  simp [exponentAmount]

theorem mem_pointed
    {digits : List Char}
    {before : Nat}
    {char : Char}
    (member : char ∈ pointed digits before) :
    char ∈ digits ∨ char = '0' ∨ char = '.' := by
  unfold pointed at member
  split at member
  · simp only [List.mem_append, List.mem_replicate, List.mem_cons, List.not_mem_nil] at member
    tauto
  · simp only [List.mem_append, List.mem_cons] at member
    rcases member with taken | isPoint | dropped
    · exact Or.inl (List.mem_of_mem_take taken)
    · exact Or.inr (Or.inr isPoint)
    · exact Or.inl (List.mem_of_mem_drop dropped)

theorem not_mem_pointed
    {digits : List Char}
    (allDigits : AllDigits digits)
    (before : Nat) :
    'e' ∉ pointed digits before := by
  intro member
  rcases mem_pointed member with inDigits | isZero | isPoint
  · exact allDigits.not_mem rfl inDigits
  · cases isZero
  · cases isPoint

/-- The mantissa before an exponent: one digit, or a point after the first one. -/
theorem mantissaAmount_scientific (digits : List Char) :
    let mantissa :=
      match digits with
      | [digit] => [digit]
      | digits => pointed digits 1
    AllDigits digits →
      'e' ∉ mantissa ∧
        mantissaAmount mantissa =
          Nat.ofDigitChars 10 digits 0 * (10 : ℚ) ^ (1 - digits.length : ℤ) := by
  intro mantissa allDigits
  unfold mantissa
  split
  · refine ⟨allDigits.not_mem rfl, ?_⟩
    rw [mantissaAmount_whole allDigits]
    simp
  · refine ⟨not_mem_pointed allDigits 1, ?_⟩
    rw [mantissaAmount_pointed allDigits, Nat.cast_one]

/-- The text of a figure amounts to the figure. -/
theorem amount_write
    {layout : Layout}
    (positiveMark : layout.exponentMark = "e+")
    (negativeMark : layout.negativeMark = "e-")
    (figure : Figure) :
    amount (layout.write figure) = figure.value := by
  have allDigits := allDigits_toDigits figure.digits
  have number : Nat.ofDigitChars 10 (Nat.toDigits 10 figure.digits) 0 = figure.digits :=
    Nat.ofDigitChars_ten_toDigits
  have ten : (10 : ℚ) ≠ 0 := by norm_num
  unfold Layout.write Figure.value
  generalize Nat.toDigits 10 figure.digits = digits at allDigits number
  dsimp only
  generalize isLeading : figure.exponent + digits.length - 1 = leading
  split
  · -- An exponent is written.
    obtain ⟨plain, isAmount⟩ := mantissaAmount_scientific digits allDigits
    obtain ⟨others, isMarked⟩ : ∃ others,
        (if leading < 0 then layout.negativeMark else layout.exponentMark).toList ++
          Nat.toDigits 10 leading.natAbs = 'e' :: others := by
      rw [positiveMark, negativeMark]
      split
      · exact ⟨_, rfl⟩
      · exact ⟨_, rfl⟩
    have isExponent := exponentAmount_of_mark positiveMark negativeMark leading
    rw [isMarked] at isExponent
    rw [List.append_assoc, isMarked]
    apply (amount_marked plain).trans
    rw [isAmount, isExponent, number, mul_assoc, ← zpow_add₀ ten]
    congr 2
    omega
  · split
    · -- The number is below one.
      rename_i belowOne
      have plain : 'e' ∉ '0' :: '.' :: (List.replicate (-leading - 1).toNat '0' ++ digits) := by
        simp only [List.mem_cons, List.mem_append, List.mem_replicate]
        have inDigits : 'e' ∉ digits := allDigits.not_mem rfl
        simp [inDigits]
      rw [List.cons_append, List.cons_append, amount_plain plain,
        mantissaAmount_fraction allDigits, number]
      congr 2
      omega
    · rename_i notBelowOne
      rw [amount_plain (not_mem_pointed allDigits _), mantissaAmount_pointed allDigits, number]
      congr 2
      omega

def isNumeric (char : Char) : Bool :=
  char.isDigit || char = '.' || char = 'e' || char = '+' || char = '-'

theorem AllDigits.numeric
    {text : List Char}
    (digits : AllDigits text) :
    ∀ char ∈ text, isNumeric char = true := by
  intro char member
  simp [isNumeric, digits char member]

/-- The text of a number with a point or an exponent. -/
structure PointedText (text : List Char) : Prop where
  digitFirst : ∃ first rest, text = first :: rest ∧ first.isDigit = true
  marked : ∃ char ∈ text, char.isDigit = false
  numeric : ∀ char ∈ text, isNumeric char = true

theorem pointedText_pointed
    {digits : List Char}
    (allDigits : AllDigits digits)
    (nonempty : digits ≠ [])
    {before : Nat}
    (positive : 0 < before) :
    PointedText (pointed digits before) := by
  obtain ⟨first, others, rfl⟩ := List.exists_cons_of_ne_nil nonempty
  obtain ⟨earlier, rfl⟩ := Nat.exists_eq_succ_of_ne_zero positive.ne'
  have isDigit : first.isDigit = true := allDigits first List.mem_cons_self
  refine ⟨?_, ⟨'.', ?_, rfl⟩, ?_⟩
  · unfold pointed
    split
    · exact ⟨first, _, rfl, isDigit⟩
    · exact ⟨first, _, rfl, isDigit⟩
  · unfold pointed
    split
    · simp
    · simp
  · intro char member
    rcases mem_pointed member with inDigits | rfl | rfl
    · exact allDigits.numeric char inDigits
    · rfl
    · rfl

theorem pointedText_write
    {layout : Layout}
    (positiveMark : layout.exponentMark = "e+")
    (negativeMark : layout.negativeMark = "e-")
    (figure : Figure) :
    PointedText (layout.write figure) := by
  have allDigits := allDigits_toDigits figure.digits
  have nonempty : Nat.toDigits 10 figure.digits ≠ [] := Nat.toDigits_ne_nil
  unfold Layout.write
  generalize Nat.toDigits 10 figure.digits = digits at allDigits nonempty
  dsimp only
  generalize figure.exponent + digits.length - 1 = leading
  split
  · have exponentDigits := allDigits_toDigits leading.natAbs
    generalize Nat.toDigits 10 leading.natAbs = exponent at exponentDigits
    obtain ⟨sign, isSign, isMark⟩ : ∃ sign, isNumeric sign = true ∧
        (if leading < 0 then layout.negativeMark else layout.exponentMark).toList =
          ['e', sign] := by
      rw [positiveMark, negativeMark]
      split
      · exact ⟨'-', rfl, rfl⟩
      · exact ⟨'+', rfl, rfl⟩
    have onlyNumeric
        {mantissa : List Char}
        (numeric : ∀ char ∈ mantissa, isNumeric char = true) :
        ∀ char ∈ mantissa ++ ['e', sign] ++ exponent, isNumeric char = true := by
      intro char member
      simp only [List.mem_append, List.mem_cons, List.not_mem_nil, or_false] at member
      rcases member with (inMantissa | rfl | rfl) | inExponent
      · exact numeric char inMantissa
      · rfl
      · exact isSign
      · exact exponentDigits.numeric char inExponent
    rw [isMark]
    split
    · rename_i digit
      exact ⟨⟨digit, _, rfl, allDigits digit List.mem_cons_self⟩, ⟨'e', by simp, rfl⟩,
        onlyNumeric allDigits.numeric⟩
    · have mantissa := pointedText_pointed allDigits nonempty Nat.one_pos
      obtain ⟨first, rest, isMantissa, isDigit⟩ := mantissa.digitFirst
      refine ⟨⟨first, rest ++ ['e', sign] ++ exponent, ?_, isDigit⟩, ⟨'e', by simp, rfl⟩,
        onlyNumeric mantissa.numeric⟩
      rw [isMantissa]
      rfl
  · split
    · refine ⟨⟨'0', _, rfl, rfl⟩, ⟨'.', by simp, rfl⟩, ?_⟩
      intro char member
      simp only [List.mem_append, List.mem_cons, List.cons_append, List.mem_replicate] at member
      rcases member with rfl | rfl | ⟨_, rfl⟩ | inDigits
      · rfl
      · rfl
      · rfl
      · exact allDigits.numeric char inDigits
    · exact pointedText_pointed allDigits nonempty (by omega)

end Switchboard.Decimal

import Querent.Decimal.Fixed
import Querent.Proofs.Decimal.Digits
import Querent.Proofs.Decimal.Nearest

/-!
# Fixed decimals

A finite number with a fixed number of decimals is written with the digits of a whole number, namely of
the one nearest to the exact size of the number in units of the last decimal, with a half going to the
even one.  The digits before the point and those behind it are these digits and no others: there are as
many behind the point as asked for, and before it stands no zero that could be left out.

The size of a number is read off its digits and its power of two as they are unpacked from its 64 bits, and
they stay the same when the sign is taken off.
-/

namespace Querent.Decimal

open Float.Model Float.Model.UnpackedFloat

/-! ## Whole numbers of units -/

/-- A quotient is rounded by its whole part and by how its rest compares with half the divisor. -/
theorem roundQuotient_eq (numerator : Nat) {denominator : Nat} (positive : 0 < denominator) :
    roundQuotient numerator denominator =
      (ExtendedMantissa.ofMantissaAndAccuracy (numerator / denominator)
        (accuracyOfFraction (numerator % denominator) denominator)).roundedMantissa := by
  simp only [roundQuotient, accuracyOfFraction]
  generalize numerator / denominator = quotient
  generalize numerator % denominator = rest
  rcases Nat.lt_trichotomy (2 * rest) denominator with less | equal | more
  · rw [if_pos less, Nat.compare_eq_lt.2 less]
    split <;> rfl
  · rw [if_neg equal.not_lt, if_neg equal.not_gt, if_neg (by omega), Nat.compare_eq_eq.2 equal]
    rfl
  · rw [if_neg (by omega), if_pos more, if_neg (by omega), Nat.compare_eq_gt.2 more]
    rfl

theorem roundsTo_roundQuotient (numerator : Nat) {denominator : Nat} (positive : 0 < denominator) :
    RoundsTo ((numerator : ℚ) / denominator) (roundQuotient numerator denominator) := by
  rw [roundQuotient_eq numerator positive]
  exact (standsFor_quotient numerator positive).roundsTo

/-- The size of the number that a binary fraction stands for. -/
def Binary.size (value : Binary) : ℚ :=
  value.mantissa * 2 ^ value.exponent

theorem Binary.roundsTo_scaled (value : Binary) (places : Nat) :
    RoundsTo (value.size * 10 ^ places) (value.scaled places) := by
  unfold Binary.size Binary.scaled
  simp only [Nat.pow_eq]
  split
  next whole =>
    obtain ⟨power, exponent⟩ := Int.eq_ofNat_of_zero_le whole
    have exact : (value.mantissa : ℚ) * 2 ^ value.exponent * 10 ^ places =
        (value.mantissa * 2 ^ power * 10 ^ places : Nat) := by
      rw [exponent, zpow_natCast]
      push_cast
      rfl
    rw [exact, exponent, Int.toNat_natCast]
    exact roundsTo_natCast _
  next fraction =>
    obtain ⟨power, exponent⟩ := Int.eq_ofNat_of_zero_le (by omega : 0 ≤ -value.exponent)
    have quotient : (value.mantissa : ℚ) * 2 ^ value.exponent * 10 ^ places =
        (value.mantissa * 10 ^ places : Nat) / (2 ^ power : Nat) := by
      rw [← neg_neg value.exponent, exponent, zpow_neg, zpow_natCast]
      push_cast
      ring
    rw [quotient, exponent, Int.toNat_natCast]
    exact roundsTo_roundQuotient _ (Nat.two_pow_pos power)

/-! ## The size of a floating-point number -/

/-- The absolute value of a finite number, exactly. -/
def absoluteValue (x : Float) : ℚ :=
  match x.toModel.unpack with
  | .finite _ mantissa exponent _ => mantissa * 2 ^ exponent
  | .zero _ | .infinity _ | .notANumber => 0

variable {x : Float}

/-- Without its sign, a finite number stands for its size. -/
theorem exists_parts_abs (finite : x.isFinite = true) :
    ∃ value, parts x.abs = .finite value ∧ value.negative = false ∧
      value.size = absoluteValue x := by
  change x.toModel.unpack.isFinite = true at finite
  have unpacked := unpack_abs x
  unfold absoluteValue
  cases number : x.toModel.unpack with
  | notANumber | infinity =>
    rw [number] at finite
    cases finite
  | zero sign =>
    have bits : x.abs.toBits.toNat = 0 := by
      change (UnpackedFloat.pack Format.binary64 x.toModel.unpack.abs).toNat = 0
      rw [number]
      rfl
    refine ⟨⟨false, 0, leastExponent⟩, ?_, rfl, by simp [Binary.size]⟩
    rw [parts, bits]
    rfl
  | finite sign mantissa exponent positive =>
    rw [number] at unpacked
    exact ⟨_, parts_of_unpack unpacked, rfl, rfl⟩

/-! ## Digits before the point and behind it -/

/--
Whether a number is written with the given digits before a point and behind it: rounded to as many
decimals as asked for, and with no zero before the other digits unless it is the only one before the point.
-/
structure WrittenAs (value : ℚ) (places : Nat) (whole fraction : List Char) : Prop where
  isDigit : ∀ c ∈ whole ++ fraction, Text.isAsciiDigit c = true
  whole_ne_nil : whole ≠ []
  leading : whole.head? = some '0' → whole = ['0']
  length_fraction : fraction.length = places
  rounded : RoundsTo (value * 10 ^ places) (ofDigits (whole ++ fraction))

theorem WrittenAs.isDigit_whole {value : ℚ} {places : Nat} {whole fraction : List Char}
    (written : WrittenAs value places whole fraction) :
    ∀ c ∈ whole, Text.isAsciiDigit c = true :=
  fun c member => written.isDigit c (List.mem_append_left _ member)

/-- A zero stands at the start only of digits that were filled up to the given number of them. -/
theorem length_of_paddedDigits_eq_zero_cons {width n : Nat} {more : List Char} (wide : 0 < width)
    (text : paddedDigits width n = '0' :: more) : more.length + 1 = width := by
  have length := congrArg List.length text
  rw [paddedDigits, length_padLeft, List.length_cons] at length
  rcases Nat.lt_or_ge width (digits n).length with long | short
  · have unfilled : padLeft width (digits n) = digits n := by
      rw [padLeft, Nat.sub_eq_zero_of_le long.le]
      rfl
    rw [paddedDigits, unfilled] at text
    rw [digits_eq_zero_cons text] at length
    rw [List.length_nil] at length
    omega
  · omega

/-- The digits are cut where as many are left as there are decimals. -/
theorem exists_withPoint_eq (places units : Nat) :
    ∃ whole fraction, paddedDigits (places + 1) units = whole ++ fraction ∧ whole ≠ [] ∧
      (whole.head? = some '0' → whole = ['0']) ∧ fraction.length = places ∧
      withPoint places units = if fraction.isEmpty then whole else whole ++ '.' :: fraction := by
  have long : places + 1 ≤ (paddedDigits (places + 1) units).length := by
    rw [paddedDigits, length_padLeft]
    exact Nat.le_max_left ..
  have zero {more : List Char} (text : paddedDigits (places + 1) units = '0' :: more) :=
    length_of_paddedDigits_eq_zero_cons (Nat.succ_pos places) text
  unfold withPoint
  generalize paddedDigits (places + 1) units = all at long zero ⊢
  have length : (all.drop (all.length - places)).length = places := by
    rw [List.length_drop]
    omega
  refine ⟨all.take (all.length - places), all.drop (all.length - places),
    (List.take_append_drop ..).symm, ?_, ?_, length, ?_⟩
  · apply List.ne_nil_of_length_pos
    rw [List.length_take]
    omega
  · intro head
    cases all with
    | nil => cases long
    | cons first more =>
      have some : (first :: more).length - places ≠ 0 := by omega
      rw [List.head?_take, if_neg some] at head
      obtain rfl := Option.some.inj head
      have one : ('0' :: more).length - places = 1 := by
        rw [List.length_cons, zero rfl]
        omega
      rw [one]
      rfl
  · simp only [beq_iff_eq, List.isEmpty_iff_length_eq_zero, length]

/-- The size of a finite number is written with the digits of the nearest whole number of units. -/
theorem exists_writtenAs (finite : x.isFinite = true) (places : Nat) :
    ∃ whole fraction, WrittenAs (absoluteValue x) places whole fraction ∧
      (fixedText places x.abs).toList =
        if fraction.isEmpty then whole else whole ++ '.' :: fraction := by
  rcases exists_parts_abs finite with ⟨value, parts, positive, size⟩
  rcases exists_withPoint_eq places (value.scaled places) with
    ⟨whole, fraction, digits, some, leading, length, text⟩
  refine ⟨whole, fraction, ?_, ?_⟩
  · constructor
    case isDigit =>
      rw [← digits]
      exact fun c => isAsciiDigit_of_mem_paddedDigits
    case whole_ne_nil => exact some
    case leading => exact leading
    case length_fraction => exact length
    case rounded =>
      rw [← digits, ofDigits_paddedDigits, ← size]
      exact value.roundsTo_scaled places
  · simp only [fixedText, parts, positive, signText, text]
    simp

end Querent.Decimal

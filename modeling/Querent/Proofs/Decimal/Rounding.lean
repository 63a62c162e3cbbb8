import Mathlib

/-!
# Rounding

The result of an operation on floating-point numbers is a whole number and a power of two, which is
rounded to 53 binary digits, or to fewer where the last place would be too small.  The digits behind
the last place are dropped and one may be added to those that are kept; if that carries into a new
digit, the last digit is dropped again.  So rounding moves the last place by at most one, and a number
with at least 53 digits keeps 53.
-/

namespace Querent.Decimal

open Float.Model Float.Model.UnpackedFloat

/-! ## Digits of whole numbers -/

theorem log2_div_pow (n places : Nat) : (n / 2 ^ places).log2 = n.log2 - places := by
  rw [Nat.log2_eq_log_two, Nat.log2_eq_log_two, Nat.log_div_base_pow]

theorem log2_mul_pow {n : Nat} (positive : 0 < n) (places : Nat) :
    (n * 2 ^ places).log2 = n.log2 + places := by
  have nonzero : n * 2 ^ places ≠ 0 := Nat.mul_ne_zero positive.ne' (Nat.two_pow_pos places).ne'
  apply (Nat.log2_eq_iff nonzero).2
  constructor
  · rw [Nat.pow_add]
    exact Nat.mul_le_mul_right _ (Nat.log2_self_le positive.ne')
  · rw [Nat.add_right_comm, Nat.pow_add]
    exact Nat.mul_lt_mul_of_pos_right Nat.lt_log2_self (Nat.two_pow_pos places)

theorem log2_mul_pow_le (n places : Nat) : (n * 2 ^ places).log2 ≤ n.log2 + places := by
  rcases Nat.eq_zero_or_pos n with rfl | positive
  · rw [Nat.zero_mul, Nat.log2_zero]
    exact Nat.zero_le _
  · exact (log2_mul_pow positive places).le

theorem log2_div_le (n divisor : Nat) : (n / divisor).log2 ≤ n.log2 - divisor.log2 := by
  rcases Nat.eq_zero_or_pos divisor with rfl | positive
  · rw [Nat.div_zero]
    exact Nat.zero_le _
  · rw [← log2_div_pow, Nat.log2_eq_log_two, Nat.log2_eq_log_two]
    apply Nat.log_mono_right
    exact Nat.div_le_div_left (Nat.log2_self_le positive.ne') (Nat.two_pow_pos _)

/-! ## Shifting -/

/-- The last place that a number with the given digits and power of two keeps. -/
def lastPlace (mantissa : Nat) (exponent : Int) : Int :=
  max (mantissa.log2 + exponent - 52) (-1074)

variable {mantissa : Nat} {exponent : Int}

theorem targetExponent_eq (mantissa : Nat) (exponent : Int) :
    Format.binary64.targetExponent (totalExponent mantissa exponent) =
      lastPlace mantissa exponent := by
  have digits : Format.binary64.mantissaBits = 53 := rfl
  have least : Format.binary64.minExponent = -1074 := rfl
  rw [Format.targetExponent, totalExponent, lastPlace, digits, least]
  omega

theorem mantissa_shiftRight (extended : ExtendedMantissa) (places : Nat) :
    (extended >>> places).mantissa = extended.mantissa / 2 ^ places := by
  induction places with
  | zero => exact (Nat.div_one _).symm
  | succ places ih =>
    change (extended >>> places).mantissa / 2 = _
    rw [ih, Nat.div_div_eq_div_mul, ← Nat.pow_succ]

theorem mantissa_ofMantissaAndAccuracy (mantissa : Nat) (accuracy : Accuracy) :
    (ExtendedMantissa.ofMantissaAndAccuracy mantissa accuracy).mantissa = mantissa := by
  rcases accuracy with _ | order
  · rfl
  · cases order <;> rfl

/-- Rounding leaves the digits that are kept or adds one to them. -/
theorem roundedMantissa_bounds (extended : ExtendedMantissa) :
    extended.mantissa ≤ extended.roundedMantissa ∧
      extended.roundedMantissa ≤ extended.mantissa + 1 := by
  rcases extended with ⟨mantissa, round, sticky⟩
  cases round <;> cases sticky <;>
    simp only [ExtendedMantissa.roundedMantissa, ExtendedMantissa.accuracy,
      Accuracy.roundToNearestEven] <;> omega

theorem mantissa_shiftToTargetExponent (mantissa : Nat) (exponent : Int) (accuracy : Accuracy) :
    (shiftToTargetExponent Format.binary64 mantissa exponent accuracy).1.mantissa =
      mantissa / 2 ^ (lastPlace mantissa exponent - exponent).toNat := by
  rw [← targetExponent_eq, shiftToTargetExponent, shiftToExponent, mantissa_shiftRight,
    mantissa_ofMantissaAndAccuracy]

theorem exponent_shiftToTargetExponent (mantissa : Nat) (exponent : Int) (accuracy : Accuracy) :
    (shiftToTargetExponent Format.binary64 mantissa exponent accuracy).2 =
      max exponent (lastPlace mantissa exponent) := by
  rw [← targetExponent_eq, shiftToTargetExponent, shiftToExponent]
  omega

/-- The digits that are left after a number is rounded for the first time. -/
def keptDigits (mantissa : Nat) (exponent : Int) (accuracy : Accuracy) : Nat :=
  (shiftToTargetExponent Format.binary64 mantissa exponent accuracy).1.roundedMantissa

/-- The first rounding keeps 53 digits, or comes to the next power of two. -/
theorem log2_keptDigits_le (mantissa : Nat) (exponent : Int) (accuracy : Accuracy) :
    (keptDigits mantissa exponent accuracy).log2 ≤ 53 := by
  have upper := (roundedMantissa_bounds
    (shiftToTargetExponent Format.binary64 mantissa exponent accuracy).1).2
  rw [mantissa_shiftToTargetExponent] at upper
  have kept : (mantissa / 2 ^ (lastPlace mantissa exponent - exponent).toNat).log2 ≤ 52 := by
    rw [log2_div_pow, lastPlace]
    omega
  have small : mantissa / 2 ^ (lastPlace mantissa exponent - exponent).toNat < 2 ^ 53 :=
    Nat.lt_of_lt_of_le Nat.lt_log2_self (Nat.pow_le_pow_right (by decide) (by omega))
  -- One added to 53 digits carries into a 54th at most.
  rcases Nat.eq_zero_or_pos (keptDigits mantissa exponent accuracy) with none | some
  · rw [none, Nat.log2_zero]
    exact Nat.zero_le 53
  · apply Nat.le_of_lt_succ
    apply (Nat.log2_lt some.ne').2
    rw [keptDigits]
    omega

/-- A number with at least 53 digits keeps 53 of them in the first rounding. -/
theorem le_log2_keptDigits (leading : 52 ≤ mantissa.log2) (accuracy : Accuracy)
    (place : lastPlace mantissa exponent - exponent ≤ mantissa.log2 - 52) :
    52 ≤ (keptDigits mantissa exponent accuracy).log2 := by
  have lower := (roundedMantissa_bounds
    (shiftToTargetExponent Format.binary64 mantissa exponent accuracy).1).1
  rw [mantissa_shiftToTargetExponent] at lower
  have kept : 52 ≤ (mantissa / 2 ^ (lastPlace mantissa exponent - exponent).toNat).log2 := by
    rw [log2_div_pow]
    omega
  apply kept.trans
  rw [Nat.log2_eq_log_two, Nat.log2_eq_log_two]
  exact Nat.log_mono_right lower

/-! ## Rounded numbers -/

/-- A rounded number is zero, or its digits and its last place are those of the second rounding. -/
theorem roundWithAccuracy_eq (sign : Sign) (mantissa : Nat) (exponent : Int)
    (accuracy : Accuracy) :
    roundWithAccuracy Format.binary64 sign mantissa exponent accuracy =
      let place := max exponent (lastPlace mantissa exponent)
      let digits := keptDigits mantissa exponent accuracy
      let final := shiftToTargetExponent Format.binary64 digits place .exact
      if nonzero : final.1.mantissa = 0 then .zero sign
      else .finite sign final.1.mantissa final.2 (Nat.pos_of_ne_zero nonzero) := by
  rw [← exponent_shiftToTargetExponent mantissa exponent accuracy]
  rfl

/-- The last place of a rounded number is at most one above the place to which it is rounded. -/
theorem roundWithAccuracy_cases (sign : Sign) (mantissa : Nat) (exponent : Int)
    (accuracy : Accuracy) :
    roundWithAccuracy Format.binary64 sign mantissa exponent accuracy = .zero sign ∨
      ∃ digits place positive,
        roundWithAccuracy Format.binary64 sign mantissa exponent accuracy =
          .finite sign digits place positive ∧
        place ≤ max exponent (lastPlace mantissa exponent) + 1 := by
  have kept := log2_keptDigits_le mantissa exponent accuracy
  rw [roundWithAccuracy_eq]
  simp only
  split
  next => exact .inl rfl
  next nonzero =>
    right
    refine ⟨_, _, Nat.pos_of_ne_zero nonzero, rfl, ?_⟩
    rw [exponent_shiftToTargetExponent]
    unfold lastPlace at *
    omega

/-- A number with at least 53 digits whose last place is not too small keeps 53 of them. -/
theorem roundWithAccuracy_of_leading (sign : Sign) (accuracy : Accuracy)
    (leading : 52 ≤ mantissa.log2) (place : -1074 ≤ mantissa.log2 + exponent - 52) :
    ∃ digits last positive,
      roundWithAccuracy Format.binary64 sign mantissa exponent accuracy =
        .finite sign digits last positive ∧
      digits.log2 = 52 ∧ mantissa.log2 + exponent ≤ last + 52 := by
  have upper := log2_keptDigits_le mantissa exponent accuracy
  have lower : 52 ≤ (keptDigits mantissa exponent accuracy).log2 :=
    le_log2_keptDigits leading accuracy (by rw [lastPlace]; omega)
  rw [roundWithAccuracy_eq]
  simp only
  generalize keptDigits mantissa exponent accuracy = kept at upper lower ⊢
  generalize atPlace : max exponent (lastPlace mantissa exponent) = rounded
  -- The second shift drops the digit behind the 53 if there is a carry, and none otherwise.
  have digits : (shiftToTargetExponent Format.binary64 kept rounded .exact).1.mantissa.log2 = 52 := by
    rw [mantissa_shiftToTargetExponent, log2_div_pow]
    unfold lastPlace at *
    omega
  have nonzero : (shiftToTargetExponent Format.binary64 kept rounded .exact).1.mantissa ≠ 0 := by
    intro zero
    rw [zero] at digits
    cases digits
  rw [dif_neg nonzero]
  refine ⟨_, _, Nat.pos_of_ne_zero nonzero, rfl, digits, ?_⟩
  rw [exponent_shiftToTargetExponent]
  unfold lastPlace at *
  omega

end Querent.Decimal

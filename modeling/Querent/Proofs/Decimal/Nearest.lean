import Querent.Proofs.Decimal.Finite

/-!
# Rounding to the nearest

What is dropped when a number is rounded is kept in two bits: whether it is at least one half of the last
place that is kept, and whether it is more than that, or than nothing.  Shifting keeps these bits right, so
the digits that are left after rounding are at most one half off.  A number that already has 53 digits
stays what it is.  So whole numbers of at most 53 digits are exact, their quotient is the nearest there is,
and two rounded numbers are compared as what they stand for.
-/

namespace Querent.Decimal

open Float.Model Float.Model.UnpackedFloat

/-! ## Rounding to a whole number -/

/-- Whether a whole number is the nearest to a number, and the even one of two that are as near. -/
structure RoundsTo (value : ℚ) (units : Nat) : Prop where
  near : |(units : ℚ) - value| ≤ 1 / 2
  even : |(units : ℚ) - value| = 1 / 2 → Even units

theorem RoundsTo.of_abs_lt {value : ℚ} {units : Nat} (close : |(units : ℚ) - value| < 1 / 2) :
    RoundsTo value units :=
  ⟨close.le, fun half => absurd half close.ne⟩

theorem roundsTo_natCast (n : Nat) : RoundsTo n n :=
  .of_abs_lt (by simp)

/-! ## What digits stand for -/

/-- Whether digits, with two bits for what is dropped behind them, stand for a number. -/
inductive StandsFor : ExtendedMantissa → ℚ → Prop where
  | exact (digits : Nat) : StandsFor ⟨digits, false, false⟩ digits
  | below {digits : Nat} {value : ℚ} (more : digits < value) (less : value < digits + 1 / 2) :
      StandsFor ⟨digits, false, true⟩ value
  | half (digits : Nat) : StandsFor ⟨digits, true, false⟩ (digits + 1 / 2)
  | above {digits : Nat} {value : ℚ} (more : digits + 1 / 2 < value) (less : value < digits + 1) :
      StandsFor ⟨digits, true, true⟩ value

namespace StandsFor

variable {extended : ExtendedMantissa} {value : ℚ}

/-- Rounded digits are at most one half off, and even if they are. -/
theorem roundsTo (stands : StandsFor extended value) :
    RoundsTo value extended.roundedMantissa := by
  cases stands with
  | exact digits => exact roundsTo_natCast digits
  | @below digits _ more less =>
    change RoundsTo value digits
    apply RoundsTo.of_abs_lt
    rw [abs_lt]
    constructor <;> linarith
  | half digits =>
    change RoundsTo _ (digits + digits % 2)
    constructor
    case near =>
      rw [abs_le]
      rcases Nat.mod_two_eq_zero_or_one digits with even | odd
      · rw [even]
        push_cast
        constructor <;> linarith
      · rw [odd]
        push_cast
        constructor <;> linarith
    case even =>
      intro _
      rw [Nat.even_iff]
      omega
  | @above digits _ more less =>
    change RoundsTo value (digits + 1 : Nat)
    apply RoundsTo.of_abs_lt
    rw [abs_lt]
    push_cast
    constructor <;> linarith

theorem digits_eq (digits : Nat) :
    (digits : ℚ) = 2 * (digits / 2 : Nat) + (digits % 2 : Nat) := by
  exact_mod_cast (Nat.div_add_mod digits 2).symm

/-- The last digit moves into the first of the two bits, and something stays behind it. -/
theorem halve {digits : Nat} (more : digits < value) (less : value < digits + 1) :
    StandsFor ⟨digits / 2, digits % 2 != 0, true⟩ (value / 2) := by
  have parts := digits_eq digits
  rcases Nat.mod_two_eq_zero_or_one digits with even | odd
  · rw [even] at parts ⊢
    push_cast at parts
    exact .below (by linarith) (by linarith)
  · rw [odd] at parts ⊢
    push_cast at parts
    exact .above (by linarith) (by linarith)

theorem shiftRightOne (stands : StandsFor extended value) :
    StandsFor extended.shiftRightOne (value / 2) := by
  unfold ExtendedMantissa.shiftRightOne
  cases stands with
  | exact digits =>
    have parts := digits_eq digits
    rcases Nat.mod_two_eq_zero_or_one digits with even | odd
    · rw [even] at parts ⊢
      have halved : (digits : ℚ) / 2 = (digits / 2 : Nat) := by
        push_cast at parts
        linarith
      rw [halved]
      exact .exact _
    · rw [odd] at parts ⊢
      have halved : (digits : ℚ) / 2 = (digits / 2 : Nat) + 1 / 2 := by
        push_cast at parts
        linarith
      rw [halved]
      exact .half _
  | below more less => exact halve more (by linarith)
  | half digits => exact halve (by linarith) (by linarith)
  | above more less => exact halve (by linarith) less

theorem shiftRight (stands : StandsFor extended value) (places : Nat) :
    StandsFor (extended >>> places) (value / 2 ^ places) := by
  induction places with
  | zero =>
    rw [pow_zero, div_one]
    exact stands
  | succ places ih =>
    rw [pow_succ, ← div_div]
    exact ih.shiftRightOne

end StandsFor

/-- The whole part of a quotient and its rest stand for the quotient. -/
theorem standsFor_quotient (dividend : Nat) {divisor : Nat} (positive : 0 < divisor) :
    StandsFor (ExtendedMantissa.ofMantissaAndAccuracy (dividend / divisor)
      (accuracyOfFraction (dividend % divisor) divisor)) ((dividend : ℚ) / divisor) := by
  have rest := Nat.mod_lt dividend positive
  have parts := (Nat.div_add_mod dividend divisor).symm
  generalize dividend % divisor = remainder at rest parts ⊢
  generalize dividend / divisor = quotient at parts ⊢
  have positive : (0 : ℚ) < divisor := Nat.cast_pos.2 positive
  have value : (dividend : ℚ) / divisor = quotient + remainder / divisor := by
    rw [parts]
    push_cast
    field_simp
  rw [value]
  unfold accuracyOfFraction
  split
  next none =>
    rw [none, Nat.cast_zero, zero_div, add_zero]
    exact .exact quotient
  next some =>
    have some : (0 : ℚ) < remainder / divisor :=
      div_pos (Nat.cast_pos.2 (Nat.pos_of_ne_zero some)) positive
    have below : (remainder / divisor : ℚ) < 1 := by
      rw [div_lt_one positive]
      exact_mod_cast rest
    cases order : compare (2 * remainder) divisor with
    | lt =>
      have small : (2 : ℚ) * remainder < divisor := by exact_mod_cast Nat.compare_eq_lt.1 order
      have half : (remainder / divisor : ℚ) < 1 / 2 := by
        rw [div_lt_div_iff₀ positive two_pos]
        linarith
      exact .below (by linarith) (by linarith)
    | eq =>
      have equal : (2 : ℚ) * remainder = divisor := by exact_mod_cast Nat.compare_eq_eq.1 order
      have half : (remainder / divisor : ℚ) = 1 / 2 := by
        rw [div_eq_div_iff positive.ne' two_ne_zero]
        linarith
      rw [half]
      exact .half quotient
    | gt =>
      have large : (divisor : ℚ) < 2 * remainder := by exact_mod_cast Nat.compare_eq_gt.1 order
      have half : (1 / 2 : ℚ) < remainder / divisor := by
        rw [div_lt_div_iff₀ two_pos positive]
        linarith
      exact .above (by linarith) (by linarith)

/-! ## Rounded numbers -/

/--
Whether a number has the given digits in front of the given place; the next power of two after 53 digits
is written with its last digit dropped.
-/
inductive Carries (sign : Sign) : Nat → Int → UnpackedFloat → Prop where
  | plain {digits : Nat} {place : Int} (leading : digits.log2 = 52) (positive : 0 < digits) :
      Carries sign digits place (.finite sign digits place positive)
  | carry {place : Int} : Carries sign (2 ^ 53) place
      (.finite sign (2 ^ 52) (place + 1) (Nat.two_pow_pos 52))

/-- Whether 53 digits in front of a place are the nearest to a number. -/
structure Nearest (value : ℚ) (digits : Nat) (place : Int) : Prop where
  least : 2 ^ 52 * 2 ^ place ≤ value
  most : value < 2 ^ 53 * 2 ^ place
  near : |(digits : ℚ) - value / 2 ^ place| ≤ 1 / 2

variable {dividend divisor : Nat} {place : Int}

/-- After the first rounding a carry is taken back by dropping one more digit. -/
theorem carries_of_kept (sign : Sign) {kept : Nat} (lower : 2 ^ 52 ≤ kept) (upper : kept ≤ 2 ^ 53)
    (normal : -1074 ≤ place) :
    Carries sign kept place
      (let final := shiftToTargetExponent Format.binary64 kept place .exact
      if nonzero : final.1.mantissa = 0 then .zero sign
      else .finite sign final.1.mantissa final.2 (Nat.pos_of_ne_zero nonzero)) := by
  have digits := mantissa_shiftToTargetExponent kept place .exact
  have last := exponent_shiftToTargetExponent kept place .exact
  generalize shiftToTargetExponent Format.binary64 kept place .exact = final at digits last ⊢
  rcases final with ⟨⟨mantissa, first, second⟩, exponent⟩
  simp only at digits last ⊢
  rcases Nat.lt_or_eq_of_le upper with short | carried
  · have leading : kept.log2 = 52 := (Nat.log2_eq_iff (by omega)).2 ⟨lower, short⟩
    have fits : lastPlace kept place = place := by
      rw [lastPlace, leading]
      omega
    rw [fits, Int.sub_self, Int.toNat_zero, pow_zero, Nat.div_one] at digits
    rw [fits, Int.max_self] at last
    subst digits last
    rw [dif_neg (by omega)]
    exact .plain leading _
  · have leading : (2 ^ 53).log2 = 53 := by decide
    have fits : lastPlace (2 ^ 53) place = place + 1 := by
      rw [lastPlace, leading]
      omega
    subst carried
    rw [fits, add_sub_cancel_left] at digits
    rw [fits, Int.max_eq_right (by omega)] at last
    subst digits last
    exact .carry

/-- The size of a quotient whose whole part has 53 digits and some more. -/
theorem quotient_bounds (positive : 0 < divisor) {dropped : Nat}
    (leading : (dividend / divisor).log2 = 52 + dropped) :
    (2 : ℚ) ^ 52 * 2 ^ dropped ≤ dividend / divisor ∧
      (dividend : ℚ) / divisor < 2 ^ 53 * 2 ^ dropped := by
  have some : dividend / divisor ≠ 0 := by
    intro zero
    rw [zero, Nat.log2_zero] at leading
    omega
  have range := (Nat.log2_eq_iff some).1 leading
  have lower := (Nat.le_div_iff_mul_le positive).1 range.1
  have upper := (Nat.div_lt_iff_lt_mul positive).1 range.2
  have positive : (0 : ℚ) < divisor := Nat.cast_pos.2 positive
  rw [le_div_iff₀ positive, div_lt_iff₀ positive, ← pow_add, ← pow_add]
  constructor
  · exact_mod_cast lower
  · rw [Nat.add_right_comm] at upper
    exact_mod_cast upper

/-- A quotient whose whole part has 53 digits or more is rounded to the nearest 53 digits. -/
theorem roundWithAccuracy_near (sign : Sign) (dividend : Nat) (place : Int) {dropped : Nat}
    (positive : 0 < divisor) (leading : (dividend / divisor).log2 = 52 + dropped)
    (normal : -1074 ≤ place + dropped) :
    ∃ digits, Nearest (dividend / divisor * 2 ^ place) digits (place + dropped) ∧
      Carries sign digits (place + dropped) (roundWithAccuracy Format.binary64 sign
        (dividend / divisor) place (accuracyOfFraction (dividend % divisor) divisor)) := by
  have last : lastPlace (dividend / divisor) place = place + dropped := by
    rw [lastPlace, leading]
    push_cast
    omega
  have near := ((standsFor_quotient dividend positive).shiftRight dropped).roundsTo.near
  have bounds := roundedMantissa_bounds (ExtendedMantissa.ofMantissaAndAccuracy (dividend / divisor)
    (accuracyOfFraction (dividend % divisor) divisor) >>> dropped)
  have kept : keptDigits (dividend / divisor) place
      (accuracyOfFraction (dividend % divisor) divisor) =
      (ExtendedMantissa.ofMantissaAndAccuracy (dividend / divisor)
        (accuracyOfFraction (dividend % divisor) divisor) >>> dropped).roundedMantissa := by
    rw [keptDigits, shiftToTargetExponent, targetExponent_eq, last, shiftToExponent,
      add_sub_cancel_left, Int.toNat_natCast]
  have short : (dividend / divisor / 2 ^ dropped).log2 = 52 := by
    rw [log2_div_pow, leading]
    omega
  have some : dividend / divisor / 2 ^ dropped ≠ 0 := by
    intro zero
    rw [zero] at short
    cases short
  have range := (Nat.log2_eq_iff some).1 short
  rw [mantissa_shiftRight, mantissa_ofMantissaAndAccuracy] at bounds
  rw [roundWithAccuracy_eq, last, Int.max_eq_right (by omega), kept]
  refine ⟨_, ?_, carries_of_kept sign (by omega) (by omega) normal⟩
  have unit : (0 : ℚ) < 2 ^ place := zpow_pos two_pos place
  have scale : (2 : ℚ) ^ (place + dropped) = 2 ^ dropped * 2 ^ place := by
    rw [zpow_add₀ two_ne_zero, zpow_natCast, mul_comm]
  have size := quotient_bounds positive leading
  constructor
  case least =>
    rw [scale, ← mul_assoc]
    exact mul_le_mul_of_nonneg_right size.1 unit.le
  case most =>
    rw [scale, ← mul_assoc]
    exact mul_lt_mul_of_pos_right size.2 unit
  case near =>
    rw [scale, mul_div_mul_right _ _ unit.ne']
    exact near

/-- Rounding leaves a number with 53 digits as it is, however it is written. -/
theorem roundWithAccuracy_exact (sign : Sign) {mantissa : Nat} (place : Int) (further : Nat)
    (leading : mantissa.log2 = 52) (positive : 0 < mantissa) (normal : -1074 ≤ place) :
    roundWithAccuracy Format.binary64 sign (mantissa * 2 ^ further) (place - further) .exact =
      .finite sign mantissa place positive := by
  have digits : (mantissa * 2 ^ further / 1).log2 = 52 + further := by
    rw [Nat.div_one, log2_mul_pow positive, leading]
  rcases roundWithAccuracy_near sign (mantissa * 2 ^ further) (place - further) one_pos digits
    (by omega) with ⟨kept, nearest, carries⟩
  have same : kept = mantissa := by
    have value : ((mantissa * 2 ^ further : Nat) : ℚ) / (1 : Nat) * 2 ^ (place - further) /
        2 ^ (place - further + further) = mantissa := by
      have unit : (2 : ℚ) ^ place ≠ 0 := zpow_ne_zero _ two_ne_zero
      rw [Int.sub_add_cancel, zpow_sub₀ two_ne_zero, zpow_natCast]
      push_cast
      field_simp
    have near := nearest.near
    rw [value, abs_le] at near
    have upper : (kept : ℚ) < mantissa + 1 := by linarith [near.2]
    have lower : (mantissa : ℚ) < kept + 1 := by linarith [near.1]
    norm_cast at upper lower
    omega
  rw [Nat.mod_one, Nat.div_one, Int.sub_add_cancel, same] at carries
  change Carries sign mantissa place
    (roundWithAccuracy Format.binary64 sign (mantissa * 2 ^ further) (place - further) .exact)
    at carries
  generalize roundWithAccuracy Format.binary64 sign (mantissa * 2 ^ further) (place - further)
    .exact = rounded at carries ⊢
  cases carries with
  | plain => rfl
  | carry => exact absurd leading (by decide)

/-! ## Whole numbers and their quotients -/

/-- A whole number, written with 53 digits. -/
def wholeDigits (n : Nat) : Nat :=
  n * 2 ^ (52 - n.log2)

section Whole

variable {n : Nat}

theorem wholeDigits_pos (positive : 0 < n) : 0 < wholeDigits n :=
  Nat.mul_pos positive (Nat.two_pow_pos _)

theorem log2_lt_of_short (positive : 0 < n) (short : n < 2 ^ 53) : n.log2 < 53 :=
  (Nat.log2_lt positive.ne').2 short

theorem log2_wholeDigits (positive : 0 < n) (short : n < 2 ^ 53) : (wholeDigits n).log2 = 52 := by
  have digits := log2_lt_of_short positive short
  rw [wholeDigits, log2_mul_pow positive]
  omega

theorem ofNat_unpacked (positive : 0 < n) (short : n < 2 ^ 53) :
    UnpackedFloat.ofNat Format.binary64 n =
      .finite .positive (wholeDigits n) (n.log2 - 52) (wholeDigits_pos positive) := by
  have digits := log2_lt_of_short positive short
  have above : compare (n : Int) 0 = .gt := Int.compare_eq_gt.2 (by omega)
  have last : lastPlace n 0 = n.log2 - 52 := by
    rw [lastPlace]
    omega
  have exact := roundWithAccuracy_exact .positive (n.log2 - 52) 0
    (log2_wholeDigits positive short) (wholeDigits_pos positive) (by omega)
  have shift : (0 - ((n.log2 : Int) - 52)).toNat = 52 - n.log2 := by omega
  have place : (0 : Int) - (52 - n.log2 : Nat) = n.log2 - 52 := by omega
  rw [pow_zero, Nat.mul_one, Nat.cast_zero, Int.sub_zero] at exact
  rw [UnpackedFloat.ofNat, UnpackedFloat.ofInt, UnpackedFloat.normalize, above]
  simp only [Int.toNat_natCast]
  rw [UnpackedFloat.round, targetExponent_eq, decreaseExponent, Nat.shiftLeft_eq, last, shift]
  simp only [place]
  exact exact

/-- A whole number of at most 53 digits is a floating-point number as it is. -/
theorem unpack_ofNat (positive : 0 < n) (short : n < 2 ^ 53) :
    (Float.ofNat n).toModel.unpack =
      .finite .positive (wholeDigits n) (n.log2 - 52) (wholeDigits_pos positive) := by
  have digits := log2_lt_of_short positive short
  have leading := log2_wholeDigits positive short
  have word : n.toUInt64.toNat = n := UInt64.toNat_ofNat_of_lt' (short.trans (by decide))
  have read : n.toUInt64.toFloat.toModel.unpack =
      .finite .positive (wholeDigits n) (n.log2 - 52) (wholeDigits_pos positive) := by
    change UnpackedFloat.unpack Format.binary64 (UnpackedFloat.pack Format.binary64
      (UnpackedFloat.ofNat Format.binary64 n.toUInt64.toNat)) = _
    rw [word, ofNat_unpacked positive short]
    exact unpack_pack_leading .positive _ leading (by omega) (by omega)
  change (Float.ofScientific n false 0).toModel.unpack = _
  rw [Float.ofScientific, dif_pos ⟨short, by decide⟩]
  change UnpackedFloat.unpack Format.binary64 (UnpackedFloat.pack Format.binary64
    (UnpackedFloat.mul Format.binary64 n.toUInt64.toFloat.toModel.unpack
      Float.exactlyRepresentablePowersOfTen[0].toModel.unpack)) = _
  have exact := roundWithAccuracy_exact .positive (n.log2 - 52) 52 leading
    (wholeDigits_pos positive) (by omega)
  rw [read, unpack_one, UnpackedFloat.mul]
  change UnpackedFloat.unpack Format.binary64 (UnpackedFloat.pack Format.binary64
    (roundWithAccuracy Format.binary64 .positive (wholeDigits n * 2 ^ 52)
      ((n.log2 : Int) - 52 - (52 : Nat)) .exact)) = _
  rw [exact]
  exact unpack_pack_leading .positive _ leading (by omega) (by omega)

/-- What 53 digits stand for when they are all digits of a whole number. -/
theorem wholeDigits_eq (positive : 0 < n) (short : n < 2 ^ 53) :
    (wholeDigits n : ℚ) = n / 2 ^ ((n.log2 : Int) - 52) := by
  have digits := log2_lt_of_short positive short
  have power : (52 - n.log2 : Nat) = (52 : Int) - n.log2 := by omega
  rw [wholeDigits, ← Int.neg_sub, zpow_neg, div_inv_eq_mul, ← power, zpow_natCast]
  push_cast
  rfl

end Whole

theorem divCore_of_leading {mantissa divisor : Nat} {exponent place : Int}
    (leading : mantissa.log2 = 52) (also : divisor.log2 = 52) (normal : -1021 ≤ exponent - place) :
    divCore Format.binary64 mantissa exponent divisor place =
      (mantissa * 2 ^ 53 / divisor, exponent - place - 53,
        accuracyOfFraction (mantissa * 2 ^ 53 % divisor) divisor) := by
  have digits : Format.binary64.mantissaBits = 53 := rfl
  have lowest : Format.binary64.minExponent = -1074 := rfl
  have target : min (exponent - place) (Format.binary64.targetExponent
      (totalExponent mantissa exponent - totalExponent divisor place)) = exponent - place - 53 := by
    rw [Format.targetExponent, totalExponent, totalExponent, leading, also, digits, lowest]
    omega
  have shift : (exponent - place - (exponent - place - 53)).toNat = 53 := by omega
  rw [divCore, target, shift, Nat.shiftLeft_eq]

/-- A number of 53 digits can be packed if its last place is not too far off. -/
theorem Carries.unpack_pack {sign : Sign} {digits : Nat} {place : Int} {number : UnpackedFloat}
    (carries : Carries sign digits place number) (normal : -1074 ≤ place) (fits : place ≤ 970) :
    UnpackedFloat.unpack Format.binary64 (UnpackedFloat.pack Format.binary64 number) = number := by
  cases carries with
  | plain leading positive => exact unpack_pack_leading sign positive leading normal (by omega)
  | carry => exact unpack_pack_leading sign _ (by decide) (by omega) (by omega)

/-- The quotient of two whole numbers of at most 53 digits is rounded to the nearest 53 digits. -/
theorem nearest_div {m n : Nat} (positive : 0 < m) (shortDividend : m < 2 ^ 53) (some : 0 < n)
    (short : n < 2 ^ 53) :
    ∃ digits place, Nearest ((m : ℚ) / n) digits place ∧
      Carries .positive digits place (Float.ofNat m / Float.ofNat n).toModel.unpack := by
  have leading := log2_wholeDigits positive shortDividend
  have also := log2_wholeDigits some short
  have dividend := (Nat.log2_eq_iff (wholeDigits_pos positive).ne').1 leading
  have divisor := (Nat.log2_eq_iff (wholeDigits_pos some).ne').1 also
  have few := log2_lt_of_short positive shortDividend
  have fewDigits := log2_lt_of_short some short
  -- The whole part of the quotient of the digits has 53 digits or one more.
  have lower : 2 ^ 52 ≤ wholeDigits m * 2 ^ 53 / wholeDigits n :=
    (Nat.le_div_iff_mul_le (wholeDigits_pos some)).2 (by omega)
  have upper : wholeDigits m * 2 ^ 53 / wholeDigits n < 2 ^ 54 :=
    (Nat.div_lt_iff_lt_mul (wholeDigits_pos some)).2 (by omega)
  have least := (Nat.le_log2 (by omega)).2 lower
  have most := (Nat.log2_lt (by omega)).2 upper
  obtain ⟨dropped, whole⟩ := Nat.exists_eq_add_of_le least
  rcases roundWithAccuracy_near .positive (wholeDigits m * 2 ^ 53)
    (m.log2 - 52 - (n.log2 - 52) - 53) (wholeDigits_pos some) whole (by omega) with
    ⟨digits, nearest, carries⟩
  have value : ((wholeDigits m * 2 ^ 53 : Nat) : ℚ) / wholeDigits n *
      2 ^ ((m.log2 : Int) - 52 - (n.log2 - 52) - 53) = m / n := by
    push_cast
    rw [wholeDigits_eq positive shortDividend, wholeDigits_eq some short,
      zpow_sub₀ two_ne_zero _ 53, zpow_sub₀ two_ne_zero ((m.log2 : Int) - 52)]
    have unit (k : Int) : (2 : ℚ) ^ k ≠ 0 := zpow_ne_zero k two_ne_zero
    have nonzero : (n : ℚ) ≠ 0 := Nat.cast_ne_zero.2 some.ne'
    have power : (2 : ℚ) ^ (53 : Int) = 2 ^ 53 := zpow_natCast 2 53
    rw [power]
    field_simp [unit]
    norm_num
  rw [value] at nearest
  refine ⟨digits, _, nearest, ?_⟩
  change Carries _ _ _ (UnpackedFloat.unpack Format.binary64 (UnpackedFloat.pack Format.binary64
    (UnpackedFloat.div Format.binary64 (Float.ofNat m).toModel.unpack
      (Float.ofNat n).toModel.unpack)))
  rw [unpack_ofNat positive shortDividend, unpack_ofNat some short, UnpackedFloat.div]
  rw [divCore_of_leading leading also (by omega)]
  simp only
  have same : (Sign.positive / Sign.positive) = Sign.positive := rfl
  rw [same, carries.unpack_pack (by omega) (by omega)]
  exact carries

theorem unpack_zero_div {n : Nat} (some : 0 < n) (short : n < 2 ^ 53) :
    (Float.ofNat 0 / Float.ofNat n).toModel.unpack = .zero .positive := by
  change UnpackedFloat.unpack Format.binary64 (UnpackedFloat.pack Format.binary64
    (UnpackedFloat.div Format.binary64 (Float.ofNat 0).toModel.unpack
      (Float.ofNat n).toModel.unpack)) = _
  rw [unpack_ofNat some short]
  change UnpackedFloat.unpack Format.binary64 (UnpackedFloat.pack Format.binary64
    (.zero .positive)) = .zero .positive
  rfl

/-! ## Order -/

theorem le_iff_compare {x y : Float} :
    x ≤ y ↔ (x.toModel.unpack.compare y.toModel.unpack).any (·.isLE) = true := by
  change decide (_ = true) = true ↔ _
  rw [decide_eq_true_iff]
  exact Iff.rfl

/-- Of two numbers with 53 digits each, the one with the lower last place is less. -/
theorem lt_of_place_lt {mantissa other : Nat} {exponent place : Int} (leading : mantissa.log2 = 52)
    (positive : 0 < mantissa) (also : other.log2 = 52) (some : 0 < other) (less : exponent < place) :
    (mantissa : ℚ) * 2 ^ exponent < other * 2 ^ place := by
  have short := ((Nat.log2_eq_iff positive.ne').1 leading).2
  have long := ((Nat.log2_eq_iff some.ne').1 also).1
  have unit : (0 : ℚ) < 2 ^ exponent := zpow_pos two_pos exponent
  calc (mantissa : ℚ) * 2 ^ exponent
      < 2 ^ 53 * 2 ^ exponent := mul_lt_mul_of_pos_right (by exact_mod_cast short) unit
    _ = 2 ^ 52 * 2 ^ (exponent + 1) := by
      rw [zpow_add_one₀ two_ne_zero]
      ring
    _ ≤ 2 ^ 52 * 2 ^ place :=
      mul_le_mul_of_nonneg_left (zpow_le_zpow_right₀ one_le_two less) (by positivity)
    _ ≤ other * 2 ^ place :=
      mul_le_mul_of_nonneg_right (by exact_mod_cast long) (zpow_pos two_pos place).le

/-- Positive numbers with 53 digits are in the order of what they stand for. -/
theorem compare_leading {mantissa other : Nat} {exponent place : Int} (leading : mantissa.log2 = 52)
    (positive : 0 < mantissa) (also : other.log2 = 52) (some : 0 < other) :
    ((UnpackedFloat.finite .positive mantissa exponent positive).compare
      (.finite .positive other place some)).any (·.isLE) = true ↔
        (mantissa : ℚ) * 2 ^ exponent ≤ other * 2 ^ place := by
  change ((compare exponent place).then (compare mantissa other)).isLE = true ↔ _
  rw [Ordering.isLE_then_iff_or, Int.compare_eq_lt, Int.compare_eq_eq, Nat.isLE_compare]
  rcases Int.lt_trichotomy exponent place with less | same | more
  · have value := lt_of_place_lt leading positive also some less
    simp only [less, value.le, true_or]
  · have unit : (0 : ℚ) < 2 ^ place := zpow_pos two_pos place
    rw [same, mul_le_mul_iff_left₀ unit, Nat.cast_le]
    simp
  · have value := lt_of_place_lt also some leading positive more
    constructor
    · rintro (less | ⟨same, -⟩) <;> omega
    · intro least
      exact absurd value (not_lt.2 least)

/-- A rounded number has 53 digits and stands for the digits it carries. -/
theorem Carries.eq_finite {sign : Sign} {digits : Nat} {place : Int} {number : UnpackedFloat}
    (carries : Carries sign digits place number) :
    ∃ mantissa exponent positive, number = .finite sign mantissa exponent positive ∧
      mantissa.log2 = 52 ∧ (mantissa : ℚ) * 2 ^ exponent = digits * 2 ^ place := by
  cases carries with
  | plain leading positive => exact ⟨_, _, positive, rfl, leading, rfl⟩
  | carry =>
    refine ⟨_, _, Nat.two_pow_pos 52, rfl, by decide, ?_⟩
    rw [zpow_add_one₀ two_ne_zero]
    push_cast
    ring

end Querent.Decimal

import Querent.Proofs.Decimal.Packing

/-!
# Finite numbers

Which results of operations on floating-point numbers are numbers at all, and which are finite.  A sum
of a number and a finite one is a number; the quotient of a finite number by two or more is finite, as
its last place is lower by at least one before it is rounded; no comparison holds of what is no number.
-/

namespace Querent.Decimal

open Float.Model Float.Model.UnpackedFloat

/-! ## Before packing -/

section Unpacked

variable {first second : UnpackedFloat}

theorem isNaN_of_isFinite_unpacked (finite : first.isFinite = true) : first.isNaN = false := by
  cases first with
  | notANumber => cases finite
  | infinity | zero | finite => rfl

theorem isNaN_roundWithAccuracy (sign : Sign) (mantissa : Nat) (exponent : Int)
    (accuracy : Accuracy) :
    (roundWithAccuracy Format.binary64 sign mantissa exponent accuracy).isNaN = false := by
  rcases roundWithAccuracy_cases sign mantissa exponent accuracy with zero | ⟨_, _, _, finite, _⟩
  · rw [zero]
    rfl
  · rw [finite]
    rfl

theorem isNaN_normalize (mantissa exponent : Int) (sign : Sign) :
    (UnpackedFloat.normalize Format.binary64 mantissa exponent sign).isNaN = false := by
  unfold UnpackedFloat.normalize
  split
  · exact isNaN_roundWithAccuracy ..
  · rfl
  · exact isNaN_roundWithAccuracy ..

theorem isNaN_add_unpacked (number : first.isNaN = false) (finite : second.isFinite = true) :
    (UnpackedFloat.add Format.binary64 first second).isNaN = false := by
  cases second with
  | notANumber | infinity => cases finite
  | zero =>
    cases first with
    | notANumber => cases number
    | infinity | finite => rfl
    | zero =>
      rw [UnpackedFloat.add]
      split <;> rfl
  | finite =>
    cases first with
    | notANumber => cases number
    | infinity | zero => rfl
    | finite => exact isNaN_normalize ..

theorem isNaN_mul_unpacked {sign : Sign} {mantissa : Nat} {exponent : Int}
    {positive : 0 < mantissa} (number : first.isNaN = false) :
    (UnpackedFloat.mul Format.binary64 first
      (.finite sign mantissa exponent positive)).isNaN = false := by
  cases first with
  | notANumber => cases number
  | infinity | zero => rfl
  | finite => exact isNaN_roundWithAccuracy ..

theorem compare_notANumber (number : UnpackedFloat) : number.compare .notANumber = none := by
  cases number <;> rfl

theorem compare_infinity (finite : first.isFinite = true) :
    first.compare (.infinity .positive) = some .lt ∧
      (UnpackedFloat.infinity .negative).compare first = some .lt := by
  cases first with
  | notANumber | infinity => cases finite
  | zero | finite => exact ⟨rfl, rfl⟩

/-- The place to which a quotient is rounded, for a divisor with 53 digits. -/
theorem lastPlace_divCore_le {mantissa divisor kept : Nat} {exponent place last : Int}
    {accuracy : Accuracy}
    (core : divCore Format.binary64 mantissa exponent divisor place = (kept, last, accuracy))
    (leading : divisor.log2 = 52) :
    max last (lastPlace kept last) ≤
      max (mantissa.log2 + exponent - place - 104) (-1074) := by
  have digits : Format.binary64.mantissaBits = 53 := rfl
  have lowest : Format.binary64.minExponent = -1074 := rfl
  rw [divCore, totalExponent, totalExponent, Format.targetExponent, digits, lowest] at core
  generalize least : min (exponent - place) _ = target at core
  rw [Prod.mk.injEq, Prod.mk.injEq, Nat.shiftLeft_eq] at core
  rcases core with ⟨rfl, rfl, _⟩
  have shifted := log2_mul_pow_le mantissa (exponent - place - target).toNat
  have quotient := log2_div_le (mantissa * 2 ^ (exponent - place - target).toNat) divisor
  rw [lastPlace]
  push_cast at least
  omega

theorem fits_div {bits : BitVec Format.binary64.numBits} (unpacks : Unpacks bits first)
    (finite : first.isFinite = true) (reaches : Reaches 2 second) :
    Fits (UnpackedFloat.div Format.binary64 first second) := by
  cases first with
  | notANumber | infinity => cases finite
  | zero =>
    cases second with
    | notANumber | zero => cases reaches
    | infinity | finite => trivial
  | finite sign mantissa exponent =>
    cases second with
    | notANumber | zero => cases reaches
    | infinity => trivial
    | finite other divisor place =>
      have digits := unpacks.log2_le
      have fits := unpacks.exponent_le
      rcases reaches with ⟨leading, far⟩
      rw [UnpackedFloat.div]
      generalize core : divCore Format.binary64 mantissa exponent divisor place = quotient
      rcases quotient with ⟨kept, last, accuracy⟩
      -- A divisor of two or more takes off the place that rounding may add.
      have bound := lastPlace_divCore_le core leading
      simp only
      rcases roundWithAccuracy_cases (sign / other) kept last accuracy with
        zero | ⟨_, rounded, _, result, near⟩
      · rw [zero]
        trivial
      · rw [result]
        apply near.trans
        omega

theorem reaches_roundWithAccuracy {mantissa : Nat} {exponent places : Int} (sign : Sign)
    (accuracy : Accuracy) (leading : 52 ≤ mantissa.log2)
    (far : places ≤ mantissa.log2 + 1 + exponent) (normal : -1021 ≤ places) :
    Reaches places (roundWithAccuracy Format.binary64 sign mantissa exponent accuracy) := by
  have place : -1074 ≤ mantissa.log2 + exponent - 52 := by omega
  rcases roundWithAccuracy_of_leading sign accuracy leading place with
    ⟨digits, last, positive, result, exact, near⟩
  rw [result]
  exact ⟨exact, by omega⟩

theorem reaches_ofNat_unpacked {n : Nat} (several : 2 ≤ n) :
    Reaches 2 (UnpackedFloat.ofNat Format.binary64 n) := by
  have digits : 1 ≤ n.log2 := (Nat.le_log2 (by omega)).2 several
  have positive : compare (n : Int) 0 = .gt := Int.compare_eq_gt.2 (by omega)
  rw [UnpackedFloat.ofNat, UnpackedFloat.ofInt, UnpackedFloat.normalize, positive]
  simp only [Int.toNat_natCast]
  rw [UnpackedFloat.round, targetExponent_eq, decreaseExponent, Nat.shiftLeft_eq]
  have shifted := log2_mul_pow (by omega : 0 < n) (0 - lastPlace n 0).toNat
  unfold lastPlace at shifted
  apply reaches_roundWithAccuracy
  · rw [lastPlace]
    omega
  · rw [lastPlace]
    omega
  · decide

theorem reaches_ofScientific {n : Nat} (several : 2 ≤ n) :
    Reaches 2 (UnpackedFloat.ofScientific Format.binary64 n 0) := by
  have digits : 1 ≤ n.log2 := (Nat.le_log2 (by omega)).2 several
  have shifted := log2_mul_pow (by omega : 0 < n) 53
  have capacity : (2 : Int) ^ Format.binary64.exponentBits = 2048 := rfl
  have exact : (n <<< Format.binary64.mantissaBits) * 10 ^ (0 : Int).toNat = n * 2 ^ 53 := by
    rw [Nat.shiftLeft_eq]
    exact Nat.mul_one _
  rw [UnpackedFloat.ofScientific, dif_neg (by omega), capacity, if_neg (by decide),
    if_neg (by omega), if_pos (Int.le_refl 0), UnpackedFloat.mul]
  simp only [exact]
  apply reaches_roundWithAccuracy
  · omega
  · have digits : Format.binary64.mantissaBits = 53 := rfl
    rw [digits]
    omega
  · decide

theorem reaches_mul_one {places : Int} (reaches : Reaches places first)
    (one : second = .finite .positive (2 ^ 52) (-52) (Nat.two_pow_pos 52))
    (normal : -1021 ≤ places) :
    Reaches places (UnpackedFloat.mul Format.binary64 first second) := by
  rw [one]
  cases first with
  | notANumber | zero => exact reaches.elim
  | infinity => trivial
  | finite sign mantissa exponent positive =>
    rcases reaches with ⟨leading, far⟩
    have product := log2_mul_pow positive 52
    apply reaches_roundWithAccuracy
    · omega
    · omega
    · exact normal

end Unpacked

/-! ## After packing -/

variable {x y : Float}

theorem isNaN_add (number : x.isNaN = false) (finite : y.isFinite = true) :
    (x + y).isNaN = false :=
  isNaN_unpack_pack.trans (isNaN_add_unpacked number finite)

theorem isNaN_mul {sign : Sign} {mantissa : Nat} {exponent : Int} {positive : 0 < mantissa}
    (number : x.isNaN = false) (finite : y.toModel.unpack = .finite sign mantissa exponent positive) :
    (x * y).isNaN = false := by
  apply isNaN_unpack_pack.trans
  rw [finite]
  exact isNaN_mul_unpacked number

/-- Taking off the sign leaves the digits and the last place as they are. -/
theorem unpack_abs (x : Float) : x.abs.toModel.unpack = x.toModel.unpack.abs :=
  (unpacks_unpack _).abs.unpack_pack

theorem isNaN_abs (x : Float) : x.abs.isNaN = x.isNaN := by
  change x.abs.toModel.unpack.isNaN = x.toModel.unpack.isNaN
  rw [unpack_abs]
  cases x.toModel.unpack <;> rfl

theorem isNaN_of_isFinite (finite : x.isFinite = true) : x.isNaN = false :=
  isNaN_of_isFinite_unpacked finite

theorem isFinite_abs (x : Float) : x.abs.isFinite = x.isFinite := by
  change x.abs.toModel.unpack.isFinite = x.toModel.unpack.isFinite
  rw [unpack_abs]
  cases x.toModel.unpack <;> rfl

/-- The quotient of a finite number by one with two places before the point is finite. -/
theorem isFinite_div (finite : x.isFinite = true) (reaches : Reaches 2 y.toModel.unpack) :
    (x / y).isFinite = true :=
  isFinite_unpack_pack_iff.2 (fits_div (unpacks_unpack _) finite reaches)

theorem lt_iff_compare : x < y ↔ x.toModel.unpack.compare y.toModel.unpack = some .lt := by
  change decide (_ = true) = true ↔ _
  rw [decide_eq_true_iff]
  exact beq_iff_eq

/-- Nothing is below what is no number. -/
theorem not_lt_of_isNaN (undefined : y.isNaN = true) : ¬ x < y := by
  rw [lt_iff_compare]
  change y.toModel.unpack.isNaN = true at undefined
  generalize y.toModel.unpack = second at undefined ⊢
  cases second with
  | notANumber =>
    rw [compare_notANumber]
    intro below
    cases below
  | infinity | zero | finite => cases undefined

theorem lt_infinity (finite : x.isFinite = true) : x < 1 / 0 :=
  lt_iff_compare.2 (compare_infinity finite).1

theorem neg_infinity_lt (finite : x.isFinite = true) : -1 / 0 < x :=
  lt_iff_compare.2 (compare_infinity finite).2

theorem unpack_one : Float.exactlyRepresentablePowersOfTen[0].toModel.unpack =
    .finite .positive (2 ^ 52) (-52) (Nat.two_pow_pos 52) := rfl

/--
A whole number from two on has at least two places before the point.  Short numbers are read as words
and multiplied by one, longer ones are rounded as they are.
-/
theorem reaches_ofNat {n : Nat} (several : 2 ≤ n) : Reaches 2 (Float.ofNat n).toModel.unpack := by
  change Reaches 2 (Float.ofScientific n false 0).toModel.unpack
  unfold Float.ofScientific
  split
  next short =>
    have word : n.toUInt64.toNat = n := UInt64.toNat_ofNat_of_lt' (short.1.trans (by decide))
    have read : Reaches 2 n.toUInt64.toFloat.toModel.unpack := by
      apply reaches_unpack_pack _ (by decide)
      change Reaches 2 (UnpackedFloat.ofNat Format.binary64 n.toUInt64.toNat)
      rw [word]
      exact reaches_ofNat_unpacked several
    exact reaches_unpack_pack (reaches_mul_one read unpack_one (by decide)) (by decide)
  next => exact reaches_unpack_pack (reaches_ofScientific several) (by decide)

/-! ## What a number stands for -/

theorem placeField_eq (bits : BitVec Format.binary64.numBits) :
    placeField bits = bits.toNat / leadingBit % 2048 := by
  rw [placeField, unpackExponent, BitVec.toNat_cast, BitVec.extractLsb_toNat,
    Nat.shiftRight_eq_div_pow]
  rfl

theorem digitsField_eq (bits : BitVec Format.binary64.numBits) :
    digitsField bits = bits.toNat % leadingBit := by
  rw [digitsField, unpackMantissa, BitVec.toNat_cast, BitVec.extractLsb_toNat,
    Nat.shiftRight_eq_div_pow]
  change bits.toNat / 2 ^ 0 % leadingBit = _
  rw [Nat.pow_zero, Nat.div_one]

theorem toNat_unpackSign (bits : BitVec Format.binary64.numBits) :
    (unpackSign bits).toNat = bits.toNat / Nat.pow 2 63 := by
  have range : bits.toNat < 2 ^ 64 := bits.isLt
  rw [unpackSign, BitVec.toNat_cast, BitVec.extractLsb_toNat, Nat.shiftRight_eq_div_pow]
  change bits.toNat / 2 ^ 63 % 2 = bits.toNat / 2 ^ 63
  omega

/-- What a number stands for is told by the fields of its bits. -/
theorem parts_eq (x : Float) :
    parts x =
      let bits : BitVec Format.binary64.numBits := x.toModel.toBits.toBitVec
      let negative := (unpackSign bits).toNat == 1
      if placeField bits = 2047 then
        (if digitsField bits = 0 then .infinite negative else .undefined)
      else if placeField bits = 0 then .finite ⟨negative, digitsField bits, leastExponent⟩
      else .finite ⟨negative, digitsField bits + leadingBit,
        leastExponent + (placeField bits - 1 : Int)⟩ := by
  simp only [parts, beq_iff_eq, placeField_eq, digitsField_eq, toNat_unpackSign]
  rfl

/-- What a number stands for tells whether it is finite and whether it is a number. -/
theorem parts_cases (x : Float) :
    (x.isFinite = true ∧ ∃ value, parts x = .finite value) ∨
    (x.isFinite = false ∧ x.isNaN = false ∧ ∃ negative, parts x = .infinite negative) ∨
    (x.isNaN = true ∧ parts x = .undefined) := by
  have unpacks := unpacks_unpack x.toModel.toBits.toBitVec
  have finite : x.isFinite = true ↔ _ := unpacks.isFinite_iff
  have number : x.isNaN = true ↔ _ := unpacks.isNaN_iff
  rw [← Bool.not_eq_true, ← Bool.not_eq_true, finite, number, parts_eq]
  simp only
  split
  next last =>
    split
    next none => exact .inr (.inl ⟨not_not.2 last, fun undefined => undefined.2 none, _, rfl⟩)
    next some => exact .inr (.inr ⟨⟨last, some⟩, rfl⟩)
  next before =>
    split
    next => exact .inl ⟨before, _, rfl⟩
    next => exact .inl ⟨before, _, rfl⟩

theorem unpackSign_of_positive {bits : BitVec Format.binary64.numBits} {mantissa : Nat}
    {exponent : Int} {positive : 0 < mantissa}
    (unpacked : UnpackedFloat.unpack Format.binary64 bits =
      .finite .positive mantissa exponent positive) :
    unpackSign bits = 0#1 := by
  have sign := sign_of_unpack unpacked
  rw [Sign.ofBitVec] at sign
  split at sign
  next zero => exact zero
  next => cases sign

/-- A positive number stands for what is unpacked. -/
theorem parts_of_unpack {mantissa : Nat} {exponent : Int} {positive : 0 < mantissa}
    (unpacked : x.toModel.unpack = .finite .positive mantissa exponent positive) :
    parts x = .finite ⟨false, mantissa, exponent⟩ := by
  have unpacks := unpacks_unpack x.toModel.toBits.toBitVec
  have plus := unpackSign_of_positive unpacked
  change Unpacks _ x.toModel.unpack at unpacks
  rw [unpacked] at unpacks
  rw [parts_eq]
  simp only [plus]
  cases unpacks with
  | small first least =>
    rw [first, least]
    rfl
  | leading between whole power =>
    have least : leastExponent + (placeField x.toModel.toBits.toBitVec - 1 : Int) = exponent := by
      rw [power, leastExponent]
      omega
    rw [if_neg between.2, if_neg between.1, least, whole, Nat.add_comm]
    rfl

end Querent.Decimal

import Querent.Decimal.Binary
import Querent.Proofs.Decimal.Rounding

/-!
# Packing

A floating-point number is packed into 64 bits: one for the sign, 11 for its last place and 52 for its
digits, where the first of 53 digits goes without saying.  The largest field of the last place is kept
for infinity and for what is no number.  So the two fields tell which numbers are finite, and packing
leaves a number finite unless its last place is too large for the field.
-/

namespace Querent.Decimal

open Float.Model Float.Model.UnpackedFloat

variable {bits : BitVec Format.binary64.numBits} {number : UnpackedFloat}

/-! ## The fields of a packed number -/

/-- The field of the last place in a packed number. -/
def placeField (bits : BitVec Format.binary64.numBits) : Nat :=
  (unpackExponent bits).toNat

/-- The field of the digits in a packed number. -/
def digitsField (bits : BitVec Format.binary64.numBits) : Nat :=
  (unpackMantissa bits).toNat

theorem placeField_lt (bits : BitVec Format.binary64.numBits) : placeField bits < 2048 :=
  (unpackExponent bits).isLt

theorem digitsField_lt (bits : BitVec Format.binary64.numBits) : digitsField bits < 2 ^ 52 :=
  (unpackMantissa bits).isLt

/-- What a packed number stands for, by its fields. -/
inductive Unpacks (bits : BitVec Format.binary64.numBits) : UnpackedFloat → Prop where
  | infinity {sign : Sign} (last : placeField bits = 2047) (none : digitsField bits = 0) :
      Unpacks bits (.infinity sign)
  | notANumber (last : placeField bits = 2047) (some : digitsField bits ≠ 0) :
      Unpacks bits .notANumber
  | zero {sign : Sign} (first : placeField bits = 0) (none : digitsField bits = 0) :
      Unpacks bits (.zero sign)
  | small {sign : Sign} {exponent : Int} {positive : 0 < digitsField bits}
      (first : placeField bits = 0) (place : exponent = -1074) :
      Unpacks bits (.finite sign (digitsField bits) exponent positive)
  | leading {sign : Sign} {mantissa : Nat} {exponent : Int} {positive : 0 < mantissa}
      (between : placeField bits ≠ 0 ∧ placeField bits ≠ 2047)
      (digits : mantissa = 2 ^ 52 + digitsField bits) (place : exponent = placeField bits - 1075) :
      Unpacks bits (.finite sign mantissa exponent positive)

theorem toNat_one_append {width : Nat} (digits : BitVec width) :
    (1#1 ++ digits).toNat = 2 ^ width + digits.toNat := by
  rw [BitVec.toNat_append, ← Nat.shiftLeft_add_eq_or_of_lt digits.isLt, BitVec.toNat_ofNat,
    Nat.shiftLeft_eq]
  exact congrArg (· + digits.toNat) (Nat.one_mul _)

theorem unpacks_unpack (bits : BitVec Format.binary64.numBits) :
    Unpacks bits (UnpackedFloat.unpack Format.binary64 bits) := by
  have bias : (Format.binary64.exponentBias : Int) +
      Format.binary64.mantissaBitsWithoutImplicit = 1075 := rfl
  unfold UnpackedFloat.unpack
  simp only [bias]
  split
  next last =>
    have field : placeField bits = 2047 := congrArg BitVec.toNat last
    split
    next none => exact .infinity field (congrArg BitVec.toNat none)
    next some => exact .notANumber field fun none => some (BitVec.eq_of_toNat_eq none)
  next before =>
    have field : placeField bits ≠ 2047 := fun last => before (BitVec.eq_of_toNat_eq last)
    split
    next first =>
      have zero : placeField bits = 0 := congrArg BitVec.toNat first
      split
      next none => exact .zero zero (congrArg BitVec.toNat none)
      next some =>
        apply Unpacks.small zero
        change (placeField bits : Int) - 1075 + 1 = -1074
        omega
    next after =>
      have nonzero : placeField bits ≠ 0 := fun first => after (BitVec.eq_of_toNat_eq first)
      exact .leading ⟨nonzero, field⟩ (toNat_one_append _) rfl

namespace Unpacks

variable {sign : Sign} {mantissa : Nat} {exponent : Int} {positive : 0 < mantissa}

theorem isFinite_iff (unpacks : Unpacks bits number) :
    number.isFinite = true ↔ placeField bits ≠ 2047 := by
  cases unpacks <;> simp_all [UnpackedFloat.isFinite]

theorem isNaN_iff (unpacks : Unpacks bits number) :
    number.isNaN = true ↔ placeField bits = 2047 ∧ digitsField bits ≠ 0 := by
  cases unpacks <;> simp_all [UnpackedFloat.isNaN]

theorem log2_le (unpacks : Unpacks bits (.finite sign mantissa exponent positive)) :
    mantissa.log2 ≤ 52 := by
  have digits := digitsField_lt bits
  apply Nat.le_of_lt_succ
  apply (Nat.log2_lt positive.ne').2
  cases unpacks <;> omega

theorem exponent_le (unpacks : Unpacks bits (.finite sign mantissa exponent positive)) :
    exponent ≤ 971 := by
  have place := placeField_lt bits
  cases unpacks <;> omega

theorem eq_infinity (unpacks : Unpacks bits number) (last : placeField bits = 2047)
    (none : digitsField bits = 0) : ∃ sign, number = .infinity sign := by
  cases unpacks with
  | infinity => exact ⟨_, rfl⟩
  | notANumber _ some => exact absurd none some
  | zero first | small first => rw [first] at last; cases last
  | leading between => exact absurd last between.2

theorem eq_finite (unpacks : Unpacks bits number)
    (between : placeField bits ≠ 0 ∧ placeField bits ≠ 2047) :
    ∃ sign positive,
      number = .finite sign (2 ^ 52 + digitsField bits) (placeField bits - 1075) positive := by
  cases unpacks with
  | infinity last | notANumber last => exact absurd last between.2
  | zero first | small first => exact absurd first between.1
  | leading _ digits place =>
    subst digits place
    exact ⟨_, _, rfl⟩

end Unpacks

/-! ## Packing -/

theorem placeField_packComponents (sign : Sign) (place : BitVec Format.binary64.exponentBits)
    (digits : BitVec Format.binary64.mantissaBitsWithoutImplicit) :
    placeField (packComponents Format.binary64 sign place digits) = place.toNat := by
  rw [placeField, unpackExponent_packComponents]

theorem digitsField_packComponents (sign : Sign) (place : BitVec Format.binary64.exponentBits)
    (digits : BitVec Format.binary64.mantissaBitsWithoutImplicit) :
    digitsField (packComponents Format.binary64 sign place digits) = digits.toNat := by
  rw [digitsField, unpackMantissa_packComponents]

theorem pack_finite (sign : Sign) {mantissa : Nat} (exponent : Int) (positive : 0 < mantissa) :
    UnpackedFloat.pack Format.binary64 (.finite sign mantissa exponent positive) =
      if 971 < exponent then packedInfinity Format.binary64 sign
      else if mantissa.log2 = 52 then
        packComponents Format.binary64 sign (BitVec.ofNat _ (exponent + 1075).toNat)
          (BitVec.ofNat _ mantissa)
      else packComponents Format.binary64 sign 0#_ (BitVec.ofNat _ mantissa) := by
  have bias : exponent + Format.binary64.exponentBias +
      Format.binary64.mantissaBitsWithoutImplicit = exponent + 1075 := Int.add_assoc ..
  have large : 2 ^ Format.binary64.exponentBits ≤ (exponent + 1075).toNat + 1 ↔ 971 < exponent := by
    have capacity : 2 ^ Format.binary64.exponentBits = 2048 := rfl
    rw [capacity]
    omega
  have leading : mantissa.log2 + 1 = Format.binary64.mantissaBits ↔ mantissa.log2 = 52 := by
    have digits : Format.binary64.mantissaBits = 53 := rfl
    rw [digits]
    omega
  simp only [UnpackedFloat.pack, bias, large, leading]

/-- Whether a number stays finite when it is packed. -/
def Fits : UnpackedFloat → Prop
  | .notANumber | .infinity _ => False
  | .zero _ => True
  | .finite _ _ exponent _ => exponent ≤ 971

/-- A number that fits leaves the largest field unused, and one that does not becomes infinity. -/
theorem placeField_pack_finite (sign : Sign) {mantissa : Nat} (exponent : Int)
    (positive : 0 < mantissa) :
    let bits := UnpackedFloat.pack Format.binary64 (.finite sign mantissa exponent positive)
    if exponent ≤ 971 then placeField bits ≠ 2047
    else placeField bits = 2047 ∧ digitsField bits = 0 := by
  have place : (BitVec.ofNat Format.binary64.exponentBits (exponent + 1075).toNat).toNat =
      (exponent + 1075).toNat % 2048 := rfl
  intro bits
  unfold bits
  rw [pack_finite]
  split
  next fits =>
    rw [if_neg (by omega)]
    split
    next =>
      rw [placeField_packComponents]
      omega
    next =>
      rw [placeField_packComponents]
      decide
  next large =>
    rw [if_pos (by omega), packedInfinity, placeField_packComponents, digitsField_packComponents]
    exact ⟨rfl, rfl⟩

/-- The fields of a number with 53 digits hold its last place and all digits but the first. -/
theorem fields_pack_leading (sign : Sign) {mantissa : Nat} {exponent : Int}
    (positive : 0 < mantissa) (leading : mantissa.log2 = 52) (place : -1074 ≤ exponent)
    (fits : exponent ≤ 971) :
    let bits := UnpackedFloat.pack Format.binary64 (.finite sign mantissa exponent positive)
    placeField bits = exponent + 1075 ∧ 2 ^ 52 + digitsField bits = mantissa := by
  have range := (Nat.log2_eq_iff positive.ne').1 leading
  intro bits
  unfold bits
  rw [pack_finite, if_neg (by omega), if_pos leading, placeField_packComponents,
    digitsField_packComponents]
  constructor
  · change (((exponent + 1075).toNat % 2048 : Nat) : Int) = exponent + 1075
    omega
  · change 2 ^ 52 + mantissa % 2 ^ 52 = mantissa
    omega

theorem isFinite_unpack_pack_iff :
    (UnpackedFloat.unpack Format.binary64 (UnpackedFloat.pack Format.binary64 number)).isFinite =
      true ↔ Fits number := by
  cases number with
  | notANumber => exact iff_of_false (by decide) id
  | infinity sign => exact iff_of_false (by cases sign <;> decide) id
  | zero sign => exact iff_of_true (by cases sign <;> decide) trivial
  | finite sign mantissa exponent positive =>
    rw [(unpacks_unpack _).isFinite_iff, Fits]
    have field := placeField_pack_finite sign exponent positive
    simp only at field
    split at field
    next fits => exact iff_of_true field fits
    next large => exact iff_of_false (fun before => before field.1) large

theorem isNaN_unpack_pack :
    (UnpackedFloat.unpack Format.binary64 (UnpackedFloat.pack Format.binary64 number)).isNaN =
      number.isNaN := by
  cases number with
  | notANumber => decide
  | infinity sign => cases sign <;> decide
  | zero sign => cases sign <;> decide
  | finite sign mantissa exponent positive =>
    have field := placeField_pack_finite sign exponent positive
    apply Bool.eq_false_iff.2
    rw [Ne, (unpacks_unpack _).isNaN_iff]
    simp only at field
    split at field
    next fits => exact fun undefined => field undefined.1
    next large => exact fun undefined => undefined.2 field.2

/--
Whether a number is infinite or has 53 digits, of which at least the given number stand before the
point.
-/
def Reaches (places : Int) : UnpackedFloat → Prop
  | .notANumber | .zero _ => False
  | .infinity _ => True
  | .finite _ mantissa exponent _ => mantissa.log2 = 52 ∧ places ≤ exponent + 53

/-- A number with 53 digits comes out again as it was packed, unless it becomes infinity. -/
theorem reaches_unpack_pack {places : Int} (reaches : Reaches places number)
    (normal : -1021 ≤ places) :
    Reaches places (UnpackedFloat.unpack Format.binary64
      (UnpackedFloat.pack Format.binary64 number)) := by
  cases number with
  | notANumber => exact reaches.elim
  | infinity sign => cases sign <;> trivial
  | zero sign => exact reaches.elim
  | finite sign mantissa exponent positive =>
    rcases reaches with ⟨leading, far⟩
    have unpacks := unpacks_unpack
      (UnpackedFloat.pack Format.binary64 (.finite sign mantissa exponent positive))
    generalize UnpackedFloat.unpack Format.binary64 _ = unpacked at unpacks ⊢
    rcases Int.lt_or_le 971 exponent with large | fits
    · have field := placeField_pack_finite sign exponent positive
      rw [if_neg (Int.not_le.2 large)] at field
      rcases unpacks.eq_infinity field.1 field.2 with ⟨sign, rfl⟩
      trivial
    · have field := fields_pack_leading sign positive leading (by omega) fits
      rcases unpacks.eq_finite (by omega) with ⟨sign, positive, rfl⟩
      constructor
      · rw [field.2]
        exact leading
      · omega

/-! ## Unpacking what was packed -/

theorem unpackSign_packComponents (sign : Sign) (place : BitVec Format.binary64.exponentBits)
    (digits : BitVec Format.binary64.mantissaBitsWithoutImplicit) :
    unpackSign (packComponents Format.binary64 sign place digits) = sign.toBitVec := by
  ext bit inside
  obtain rfl : bit = 0 := by omega
  simp only [unpackSign, Nat.reduceAdd, Nat.reduceSub, packComponents, BitVec.cast_eq,
    BitVec.getElem_extract, add_zero]
  rw [BitVec.getLsbD_append, BitVec.getLsbD_append]
  simp

theorem ofBitVec_toBitVec (sign : Sign) : Sign.ofBitVec sign.toBitVec = sign := by
  cases sign <;> rfl

theorem unpackSign_pack_finite (sign : Sign) {mantissa : Nat} (exponent : Int)
    (positive : 0 < mantissa) :
    unpackSign (UnpackedFloat.pack Format.binary64 (.finite sign mantissa exponent positive)) =
      sign.toBitVec := by
  rw [pack_finite]
  split
  next => exact unpackSign_packComponents sign _ _
  next => split <;> exact unpackSign_packComponents sign _ _

theorem sign_of_unpack {bits : BitVec Format.binary64.numBits} {sign : Sign} {mantissa : Nat}
    {exponent : Int} {positive : 0 < mantissa}
    (unpacked : UnpackedFloat.unpack Format.binary64 bits = .finite sign mantissa exponent positive) :
    sign = Sign.ofBitVec (unpackSign bits) := by
  unfold UnpackedFloat.unpack at unpacked
  simp only at unpacked
  split at unpacked
  next => split at unpacked <;> cases unpacked
  next =>
    split at unpacked
    next =>
      split at unpacked
      next => cases unpacked
      next =>
        cases unpacked
        rfl
    next =>
      cases unpacked
      rfl

/-- A number with 53 digits comes out as it was packed if its last place is one that can be packed. -/
theorem unpack_pack_leading (sign : Sign) {mantissa : Nat} {exponent : Int}
    (positive : 0 < mantissa) (leading : mantissa.log2 = 52) (normal : -1074 ≤ exponent)
    (fits : exponent ≤ 971) :
    UnpackedFloat.unpack Format.binary64
      (UnpackedFloat.pack Format.binary64 (.finite sign mantissa exponent positive)) =
        .finite sign mantissa exponent positive := by
  have fields := fields_pack_leading sign positive leading normal fits
  simp only at fields
  have signBit := unpackSign_pack_finite sign exponent positive
  generalize UnpackedFloat.pack Format.binary64 (.finite sign mantissa exponent positive) = bits
    at fields signBit ⊢
  rcases (unpacks_unpack bits).eq_finite (by omega) with ⟨other, some, unpacked⟩
  have same : other = sign := by
    rw [sign_of_unpack unpacked, signBit, ofBitVec_toBitVec]
  have place : (placeField bits : Int) - 1075 = exponent := by omega
  subst same
  simp only [unpacked, fields.2, place]

theorem Unpacks.abs (unpacks : Unpacks bits number) : Unpacks bits number.abs := by
  cases unpacks with
  | infinity last none => exact .infinity last none
  | notANumber last some => exact .notANumber last some
  | zero first none => exact .zero first none
  | small first place => exact .small first place
  | leading between digits place => exact .leading between digits place

/-- A number with fewer than 53 digits comes out as it was packed. -/
theorem unpack_pack_small (sign : Sign) {mantissa : Nat} (positive : 0 < mantissa)
    (short : mantissa < 2 ^ 52) :
    UnpackedFloat.unpack Format.binary64
      (UnpackedFloat.pack Format.binary64 (.finite sign mantissa (-1074) positive)) =
        .finite sign mantissa (-1074) positive := by
  have log2 : mantissa.log2 ≠ 52 := ((Nat.log2_lt positive.ne').2 short).ne
  have signBit := unpackSign_pack_finite sign (-1074) positive
  have place : placeField (UnpackedFloat.pack Format.binary64
      (.finite sign mantissa (-1074) positive)) = 0 := by
    rw [pack_finite, if_neg (by decide), if_neg log2, placeField_packComponents]
    rfl
  have digits : digitsField (UnpackedFloat.pack Format.binary64
      (.finite sign mantissa (-1074) positive)) = mantissa := by
    rw [pack_finite, if_neg (by decide), if_neg log2, digitsField_packComponents]
    exact Nat.mod_eq_of_lt short
  generalize UnpackedFloat.pack Format.binary64 (.finite sign mantissa (-1074) positive) = bits
    at signBit place digits ⊢
  have unpacks := unpacks_unpack bits
  generalize unpacked : UnpackedFloat.unpack Format.binary64 bits = number at unpacks ⊢
  cases unpacks with
  | infinity last | notANumber last => rw [place] at last; cases last
  | zero _ none => omega
  | leading between => exact absurd place between.1
  | small _ least =>
    have same := sign_of_unpack unpacked
    rw [signBit, ofBitVec_toBitVec] at same
    subst least same
    simp only [digits]

/-- What was unpacked comes out again as it was packed. -/
theorem Unpacks.unpack_pack (unpacks : Unpacks bits number) :
    UnpackedFloat.unpack Format.binary64 (UnpackedFloat.pack Format.binary64 number) = number := by
  cases unpacks with
  | @infinity sign => cases sign <;> rfl
  | notANumber => rfl
  | @zero sign => cases sign <;> rfl
  | small _ least =>
    subst least
    exact unpack_pack_small _ _ (digitsField_lt bits)
  | leading between digits place =>
    have short := digitsField_lt bits
    have range := placeField_lt bits
    have log2 : (2 ^ 52 + digitsField bits).log2 = 52 :=
      (Nat.log2_eq_iff (by omega)).2 ⟨by omega, by omega⟩
    subst digits place
    exact unpack_pack_leading _ _ log2 (by omega) (by omega)

end Querent.Decimal

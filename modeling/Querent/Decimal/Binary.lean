/-!
# Binary fractions

A floating-point number is a sign, a whole number and a power of two.  Here such numbers are taken
apart into whole numbers, and quotients of whole numbers are rounded to the nearest of them; of two
that are equally near, the one with the even whole number is taken.
-/

namespace Querent.Decimal

/-- The number `mantissa * 2 ^ exponent`, or its negative. -/
structure Binary where
  negative : Bool
  mantissa : Nat
  exponent : Int
  deriving DecidableEq, Repr

/-- What a floating-point number stands for. -/
inductive Parts where
  | finite (value : Binary)
  | infinite (negative : Bool)
  | undefined
  deriving DecidableEq, Repr

/-- The exponent of the smallest positive floating-point number. -/
def leastExponent : Int := -1074

/-- The number that stands first among those with 53 binary digits. -/
def leadingBit : Nat := Nat.pow 2 52

/-- What a floating-point number stands for. -/
def parts (x : Float) : Parts :=
  let bits := x.toBits.toNat
  let negative := bits / Nat.pow 2 63 == 1
  let field := bits / leadingBit % 2048
  let fraction := bits % leadingBit
  if field == 2047 then (if fraction == 0 then .infinite negative else .undefined)
  else if field == 0 then .finite ⟨negative, fraction, leastExponent⟩
  else .finite ⟨negative, fraction + leadingBit, leastExponent + (field - 1 : Int)⟩

/-- A quotient rounded to the nearest whole number, a half to the even one. -/
def roundQuotient (numerator denominator : Nat) : Nat :=
  let quotient := numerator / denominator
  let remainder := numerator % denominator
  if 2 * remainder < denominator then quotient
  else if 2 * remainder > denominator then quotient + 1
  else quotient + quotient % 2

/-- The positive power of two as a factor of a numerator or of a denominator. -/
def shiftQuotient (numerator denominator : Nat) (exponent : Int) : Nat × Nat :=
  if 0 ≤ exponent then (numerator, denominator * Nat.pow 2 exponent.toNat)
  else (numerator * Nat.pow 2 (-exponent).toNat, denominator)

/-- The quotient of two whole numbers, of which the second is positive, as a floating-point number. -/
def ofQuotient (negative : Bool) (numerator denominator : Nat) : Float :=
  let sign : Nat := if negative then Nat.pow 2 63 else 0
  if numerator == 0 then Float.ofBits (UInt64.ofNat sign)
  else
    let guess : Int := (numerator.log2 : Int) - denominator.log2 - 53
    let (n, d) := shiftQuotient numerator denominator guess
    let exact : Int := if n / d ≥ 2 * leadingBit then guess + 1 else guess
    let exponent := max exact leastExponent
    let (n, d) := shiftQuotient numerator denominator exponent
    let magnitude := (exponent - leastExponent).toNat * leadingBit + roundQuotient n d
    Float.ofBits (UInt64.ofNat (sign + min magnitude (2047 * leadingBit)))

end Querent.Decimal

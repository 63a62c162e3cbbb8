import Querent.Decimal.Binary
import Querent.Decimal.Digits

/-!
# Fixed decimals

A floating-point number with a fixed number of decimals: the exact value of the number, rounded to
the nearest decimal with so many places, a half to the even last digit.  The sign of a number stays,
even if nothing but zeros is left of it.
-/

namespace Querent.Decimal

/-- A number times a power of ten, rounded to a whole number. -/
def Binary.scaled (value : Binary) (places : Nat) : Nat :=
  if 0 ≤ value.exponent then value.mantissa * Nat.pow 2 value.exponent.toNat * Nat.pow 10 places
  else roundQuotient (value.mantissa * Nat.pow 10 places) (Nat.pow 2 (-value.exponent).toNat)

/-- A whole number of units of the last place, with a point before so many places. -/
def withPoint (places units : Nat) : List Char :=
  let all := paddedDigits (places + 1) units
  let whole := all.take (all.length - places)
  if places == 0 then whole else whole ++ '.' :: all.drop (all.length - places)

/-- The sign of a negative number. -/
def signText (negative : Bool) : String :=
  if negative then "-" else ""

/-- A floating-point number with a fixed number of decimals. -/
def fixedText (places : Nat) (x : Float) : String :=
  match parts x with
  | .finite value =>
    signText value.negative ++ String.ofList (withPoint places (value.scaled places))
  | .infinite negative => signText negative ++ "inf"
  | .undefined => "NaN"

end Querent.Decimal

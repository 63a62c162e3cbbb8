import Querent.Decimal.Binary
import Querent.Decimal.Digits
import Querent.Text.Digit

/-!
# Reading decimals

The floating-point number nearest to a decimal.  A decimal is an optional sign, digits with an
optional point among them, and an optional power of ten; infinity and the undefined number have
names of their own.
-/

namespace Querent.Decimal

/-- A decimal as it is written: the sign, the digits, and the power of ten of the last digit. -/
structure Written where
  negative : Bool
  digits : List Char
  exponent : Int
  deriving DecidableEq, Repr

/--
The nearest floating-point number.  Numbers far outside the range of floating-point numbers are
told by their size alone, so that no power of ten grows without bound.
-/
def Written.toFloat (written : Written) : Float :=
  let coefficient := ofDigits written.digits
  let size := written.exponent + written.digits.length
  if coefficient == 0 || size < -400 then ofQuotient written.negative 0 1
  else if written.exponent + (Decimal.digits coefficient).length > 400 then
    ofQuotient written.negative (Nat.pow 2 1100) 1
  else if 0 ≤ written.exponent then
    ofQuotient written.negative (coefficient * Nat.pow 10 written.exponent.toNat) 1
  else ofQuotient written.negative coefficient (Nat.pow 10 (-written.exponent).toNat)

/-- A sign at the start of a text, and the text after it. -/
def splitSign : List Char → Bool × List Char
  | '-' :: rest => (true, rest)
  | '+' :: rest => (false, rest)
  | text => (false, text)

/-- The power of ten that a text stands for, where an empty text is none. -/
def readExponent : List Char → Option Int
  | [] => some 0
  | c :: rest =>
    if c == 'e' || c == 'E' then
      let (negative, digits) := splitSign rest
      if digits.isEmpty || !digits.all Text.isAsciiDigit then none
      else
        let power : Int := ofDigits digits
        some (if negative then -power else power)
    else none

/-- The decimal that a text without a sign stands for. -/
def readUnsigned (negative : Bool) (text : List Char) : Option Written :=
  let whole := text.takeWhile Text.isAsciiDigit
  let rest := text.dropWhile Text.isAsciiDigit
  let (fraction, rest) := match rest with
    | '.' :: after => (after.takeWhile Text.isAsciiDigit, after.dropWhile Text.isAsciiDigit)
    | _ => ([], rest)
  if whole.isEmpty && fraction.isEmpty then none
  else
    (readExponent rest).map fun power =>
      ⟨negative, whole ++ fraction, power - fraction.length⟩

/-- The floating-point number that a text stands for, if it stands for one. -/
def read? (text : String) : Option Float :=
  let (negative, rest) := splitSign text.toList
  match String.ofList (rest.map Char.toLower) with
  | "inf" | "infinity" => some (ofQuotient negative (Nat.pow 2 1100) 1)
  | "nan" => some (Float.ofBits 0x7FF8000000000000)
  | _ => (readUnsigned negative rest).map Written.toFloat

end Querent.Decimal

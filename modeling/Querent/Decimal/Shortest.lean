import Querent.Decimal.Binary
import Querent.Decimal.Digits

/-!
# Shortest decimals

The shortest decimal that stands for a floating-point number.  The decimals that stand for a number
are those nearer to it than to any other; they make up an interval, which contains its ends exactly
if the whole number of the binary fraction is even.  Of the decimals in the interval with the fewest
digits, the one nearest to the number is taken.
-/

namespace Querent.Decimal

/-- The decimal number `coefficient * 10 ^ exponent`. -/
structure Coefficient where
  coefficient : Nat
  exponent : Int
  deriving DecidableEq, Repr

/-- A positive quotient of whole numbers. -/
structure Quotient where
  numerator : Nat
  denominator : Nat
  deriving DecidableEq, Repr

namespace Quotient

/-- The number `n * base ^ exponent`. -/
def ofPower (n base : Nat) (exponent : Int) : Quotient :=
  if 0 ≤ exponent then ⟨n * base.pow exponent.toNat, 1⟩ else ⟨n, base.pow (-exponent).toNat⟩

/-- Whether one quotient is less than another. -/
def lt (a b : Quotient) : Bool :=
  a.numerator * b.denominator < b.numerator * a.denominator

/-- Whether one quotient is not greater than another. -/
def le (a b : Quotient) : Bool :=
  !b.lt a

/-- The distance of two quotients. -/
def distance (a b : Quotient) : Quotient :=
  let x := a.numerator * b.denominator
  let y := b.numerator * a.denominator
  ⟨(x - y) + (y - x), a.denominator * b.denominator⟩

end Quotient

/-- The interval of the numbers that round to a floating-point number, given in quarter units. -/
structure Interval where
  low : Quotient
  high : Quotient
  closed : Bool

/-- The interval of the numbers that round to a positive binary fraction. -/
def roundingInterval (mantissa : Nat) (exponent : Int) : Interval :=
  let below := if mantissa == leadingBit && exponent > leastExponent then 1 else 2
  ⟨Quotient.ofPower (4 * mantissa - below) 2 (exponent - 2),
    Quotient.ofPower (4 * mantissa + 2) 2 (exponent - 2), mantissa % 2 == 0⟩

/-- Whether a number lies in an interval. -/
def Interval.contains (interval : Interval) (x : Quotient) : Bool :=
  if interval.closed then interval.low.le x && x.le interval.high
  else interval.low.lt x && x.lt interval.high

/-- The greatest power of ten that a positive number reaches, from an estimate that is too small. -/
def leadingExponent (value : Quotient) : Nat → Int → Int
  | 0, estimate => estimate
  | steps + 1, estimate =>
    if (Quotient.ofPower 1 10 (estimate + 1)).le value then
      leadingExponent value steps (estimate + 1)
    else estimate

/-- A power of ten that a positive number reaches and at most a little below the greatest one. -/
def exponentEstimate (value : Quotient) : Int :=
  let bits : Int := (value.numerator.log2 : Int) - value.denominator.log2 - 1
  (bits * 30103).fdiv 100000 - 1

/-- The decimal in an interval with a power of ten as its unit that is nearest to a number. -/
def nearestAt (value : Quotient) (interval : Interval) (exponent : Int) : Option Coefficient :=
  let unit := Quotient.ofPower 1 10 exponent
  let lower := value.numerator * unit.denominator / (value.denominator * unit.numerator)
  let at_ (n : Nat) : Quotient := Quotient.ofPower n 10 exponent
  let fits (n : Nat) : Bool := n != 0 && interval.contains (at_ n)
  match fits lower, fits (lower + 1) with
  | true, true =>
    let down := value.distance (at_ lower)
    let up := value.distance (at_ (lower + 1))
    if down.lt up || (!up.lt down && lower % 2 == 0) then some ⟨lower, exponent⟩
    else some ⟨lower + 1, exponent⟩
  | true, false => some ⟨lower, exponent⟩
  | false, true => some ⟨lower + 1, exponent⟩
  | false, false => none

/-- The first decimal found in an interval, with the unit made smaller step by step. -/
def shortestFrom (value : Quotient) (interval : Interval) : Nat → Int → Coefficient
  | 0, exponent => ⟨0, exponent⟩
  | steps + 1, exponent =>
    match nearestAt value interval exponent with
    | some found => found
    | none => shortestFrom value interval steps (exponent - 1)

/-- A decimal without zeros at the end of its digits. -/
def withoutZeros : Nat → Coefficient → Coefficient
  | 0, value => value
  | steps + 1, ⟨coefficient, exponent⟩ =>
    if coefficient != 0 && coefficient % 10 == 0 then
      withoutZeros steps ⟨coefficient / 10, exponent + 1⟩
    else ⟨coefficient, exponent⟩

/-- The shortest decimal that stands for a positive binary fraction. -/
def shortest (mantissa : Nat) (exponent : Int) : Coefficient :=
  let value := Quotient.ofPower mantissa 2 exponent
  let top := leadingExponent value 6 (exponentEstimate value)
  withoutZeros 20 (shortestFrom value (roundingInterval mantissa exponent) 18 top)

/-- Decimal digits with a point after some of them; zeros fill the gaps. -/
def positional (text : List Char) (pointAt : Int) : List Char :=
  if pointAt ≤ 0 then
    '0' :: '.' :: (List.replicate (-pointAt).toNat '0' ++ text)
  else if text.length ≤ pointAt.toNat then
    text ++ List.replicate (pointAt.toNat - text.length) '0' ++ ['.', '0']
  else text.take pointAt.toNat ++ '.' :: text.drop pointAt.toNat

/-- Decimal digits with a point after the first of them and a power of ten with its sign. -/
def scientific (text : List Char) (power : Int) : List Char :=
  let fraction := text.drop 1
  let sign := if 0 ≤ power then ['+'] else []
  text.take 1 ++ (if fraction.isEmpty then [] else '.' :: fraction) ++
    'e' :: sign ++ (toString power).toList

/--
A floating-point number in the fewest digits that stand for it.  The digits, and where the point is
among them, are laid out as the caller wishes; zero is not laid out.
-/
def laidOut (layout : List Char → Int → List Char) (x : Float) : String :=
  match parts x with
  | .finite value =>
    let sign := if value.negative then "-" else ""
    if value.mantissa == 0 then sign ++ "0.0"
    else
      let ⟨coefficient, exponent⟩ := shortest value.mantissa value.exponent
      let text := digits coefficient
      sign ++ String.ofList (layout text (exponent + text.length))
  | .infinite negative => (if negative then "-" else "") ++ "inf"
  | .undefined => "NaN"

/--
The shortest text of a floating-point number: with a point where the first digit is worth between
`10 ^ -5` and `10 ^ 15`, with a power of ten otherwise.
-/
def shortestText (x : Float) : String :=
  laidOut
    (fun text pointAt =>
      if -5 < pointAt && pointAt ≤ 16 then positional text pointAt
      else scientific text (pointAt - 1))
    x

/-- The shortest text of a floating-point number without a power of ten. -/
def positionalText (x : Float) : String :=
  laidOut positional x

/-- The shortest text without a power of ten, where a whole number has no point. -/
def plainText (x : Float) : String :=
  let text := (positionalText x).toList
  String.ofList (if text.drop (text.length - 2) == ['.', '0'] then text.take (text.length - 2) else text)

end Querent.Decimal

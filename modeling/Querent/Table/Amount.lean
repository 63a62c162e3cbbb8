import Querent.Decimal.Fixed

/-!
# Amounts

Numbers as they are shown to a reader: with commas between thousands, and either with up to three
decimals or as dollars with a fixed number of them.  An amount that is rounded to zero has no sign.
-/

namespace Querent.Amount

/-- Digits with a comma before each group of three that has digits before it. -/
def thousands : List Char → List Char
  | [] => []
  | digit :: rest =>
    if rest.length % 3 == 0 && !rest.isEmpty then digit :: ',' :: thousands rest
    else digit :: thousands rest

/-- A text without the zeros at its end. -/
def withoutTrailingZeros (digits : List Char) : List Char :=
  (digits.reverse.dropWhile (· == '0')).reverse

/-- The digits before the point and those after it. -/
def splitPoint (text : List Char) : List Char × List Char :=
  (text.takeWhile (· != '.'), (text.dropWhile (· != '.')).drop 1)

/-- Digits before a point and, unless there are none, the point and the digits after it. -/
def joinPoint (whole fraction : List Char) : List Char :=
  if fraction.isEmpty then whole else whole ++ '.' :: fraction

/-- The size of a number with a fixed number of decimals. -/
def magnitude (places : Nat) (value : Float) : List Char :=
  (Decimal.fixedText places value.abs).toList

/-- Whether a text has nothing but zeros and a point. -/
def isZero (text : List Char) : Bool :=
  text.all fun c => c == '0' || c == '.'

/-- The sign of a number whose size is shown by the given text. -/
def sign (value : Float) (shown : List Char) : String :=
  if value < 0 && !isZero shown then "-" else ""

/-- A number with at most three decimals. -/
def plain (value : Float) : String :=
  let shown := magnitude 3 value
  let (whole, fraction) := splitPoint shown
  sign value shown ++ String.ofList (joinPoint (thousands whole) (withoutTrailingZeros fraction))

/-- A number of dollars with a fixed number of decimals. -/
def dollars (places : Nat) (value : Float) : String :=
  let shown := magnitude places value
  let (whole, fraction) := splitPoint shown
  sign value shown ++ "$" ++ String.ofList (joinPoint (thousands whole) fraction)

/-- Commas aside, the digits stay as they are. -/
theorem filter_thousands {passes : Char → Bool} (comma : passes ',' = false) {digits : List Char}
    (kept : ∀ c ∈ digits, passes c = true) : (thousands digits).filter passes = digits := by
  induction digits with
  | nil => rfl
  | cons digit rest ih =>
    have hd : passes digit = true := kept digit (by simp)
    have hr := ih fun c hc => kept c (by simp [hc])
    simp only [thousands]
    split <;> simp [hd, hr, comma]

end Querent.Amount

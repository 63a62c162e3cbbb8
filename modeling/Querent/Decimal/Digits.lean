/-!
# Digits

Whole numbers as decimal digits, with and without leading zeros.
-/

namespace Querent.Decimal

/-- The decimal digits of a whole number. -/
def digits (n : Nat) : List Char :=
  Nat.toDigits 10 n

/-- A text of at least the given length, with zeros before it as needed. -/
def padLeft (width : Nat) (text : List Char) : List Char :=
  List.replicate (width - text.length) '0' ++ text

/-- The decimal digits of a whole number, at least as many as given. -/
def paddedDigits (width n : Nat) : List Char :=
  padLeft width (digits n)

/-- The whole number that decimal digits stand for. -/
def ofDigits (text : List Char) : Nat :=
  text.foldl (fun n c => n * 10 + (c.toNat - '0'.toNat)) 0

@[simp]
theorem length_padLeft (width : Nat) (text : List Char) :
    (padLeft width text).length = max width text.length := by
  simp [padLeft]
  omega

end Querent.Decimal

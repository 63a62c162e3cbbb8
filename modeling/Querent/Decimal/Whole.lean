import Querent.Text.Digit

/-!
# Whole numbers

Whole numbers with an optional sign, read from the left to the right.  The first character that is
no digit, or that makes the number too large, decides what is wrong with a text.
-/

namespace Querent.Decimal

/-- Why a text is no whole number. -/
inductive WholeError where
  | empty
  | noDigit
  | tooLarge
  | tooSmall
  deriving DecidableEq, Repr

/-- The wording of an error. -/
def WholeError.message : WholeError → String
  | empty => "cannot parse integer from empty string"
  | noDigit => "invalid digit found in string"
  | tooLarge => "number too large to fit in target type"
  | tooSmall => "number too small to fit in target type"

/-- The number that digits stand for after those read so far, if it does not exceed a limit. -/
def readDigits (limit : Nat) (excess : WholeError) : Nat → List Char → Except WholeError Nat
  | n, [] => .ok n
  | n, c :: rest =>
    if !Text.isAsciiDigit c then .error .noDigit
    else if limit < n * 10 + Text.digitValue c then .error excess
    else readDigits limit excess (n * 10 + Text.digitValue c) rest

/-- The number that a text of digits stands for; there must be at least one. -/
def readMagnitude (limit : Nat) (excess : WholeError) (text : List Char) : Except WholeError Nat :=
  if text.isEmpty then .error .noDigit else readDigits limit excess 0 text

/-- A number of 64 binary digits, which may have a plus sign. -/
def readNatural (text : String) : Except WholeError Nat :=
  match text.toList with
  | [] => .error .empty
  | '+' :: rest => readMagnitude (Nat.pow 2 64 - 1) .tooLarge rest
  | all => readMagnitude (Nat.pow 2 64 - 1) .tooLarge all

/-- A number of 63 binary digits and a sign. -/
def readSigned (text : String) : Except WholeError Int :=
  match text.toList with
  | [] => .error .empty
  | '-' :: rest => (readMagnitude (Nat.pow 2 63) .tooSmall rest).map fun n => -(n : Int)
  | '+' :: rest => (readMagnitude (Nat.pow 2 63 - 1) .tooLarge rest).map fun n => (n : Int)
  | all => (readMagnitude (Nat.pow 2 63 - 1) .tooLarge all).map fun n => (n : Int)

end Querent.Decimal

import Querent.Calendar.Moment
import Querent.Text.Blank
import Querent.Text.Case
import Querent.Text.Digit

/-!
# Reading moments

The moment that a text stands for: a day, a time of day and an offset.  A letter or a blank stands
between the day and the time, more blanks may stand between all parts, and the offset is a letter or
hours and minutes with a sign.  Whether the parts make up a moment is asked only when all of them
have been read.
-/

namespace Querent.Calendar

/-- Why a text does not stand for a moment. -/
inductive TimeError where
  | outOfRange
  | impossible
  | invalid
  | tooShort
  | tooLong
  deriving DecidableEq, Repr

/-- The wording of an error. -/
def TimeError.message : TimeError → String
  | outOfRange => "input is out of range"
  | impossible => "no possible date and time matching input"
  | invalid => "input contains invalid characters"
  | tooShort => "premature end of input"
  | tooLong => "trailing input"

/-- A parser of a part of a moment. -/
abbrev TimeParser := StateT (List Char) (Except TimeError)

namespace TimeParser

/-- Passes over blanks. -/
def blanks : TimeParser Unit :=
  modify Text.trimStart

/-- The largest number that a group of digits may stand for. -/
def largestNumber : Nat := Nat.pow 2 63 - 1

/-- A number of at most so many digits, of which there must be one. -/
def digitsUpTo (most : Nat) : TimeParser Nat := do
  let text ← get
  let digits := (text.take most).takeWhile Text.isAsciiDigit
  if text.isEmpty then throw .tooShort
  else if digits.isEmpty then throw .invalid
  else if Decimal.ofDigits digits > largestNumber then throw .outOfRange
  else
    set (text.drop digits.length)
    return Decimal.ofDigits digits

/-- A number of at most two digits after blanks, within bounds. -/
def bounded (least greatest : Nat) : TimeParser Nat := do
  blanks
  let n ← digitsUpTo 2
  if n < least || greatest < n then throw .outOfRange else return n

/-- A year of four digits, or of any number of digits after a sign. -/
def year : TimeParser Int := do
  blanks
  let text ← get
  let value : Int ← match text with
    | '-' :: rest => do
      set rest
      pure (-(← digitsUpTo rest.length : Nat))
    | '+' :: rest => do
      set rest
      pure (← digitsUpTo rest.length : Nat)
    | _ => pure (← digitsUpTo 4 : Nat)
  if value < -Nat.pow 2 31 || Nat.pow 2 31 ≤ value then throw .outOfRange else return value

/-- A character that must be there after blanks. -/
def mark (c : Char) : TimeParser Unit := do
  blanks
  match ← get with
  | [] => throw .tooShort
  | first :: rest => if first == c then set rest else throw .invalid

/-- What stands between the day and the time. -/
def separator : TimeParser Unit := do
  match ← get with
  | [] => throw .tooShort
  | first :: rest =>
    if first == 'T' || first == 't' || first == ' ' then set rest else throw .invalid

/-- The nanoseconds of a fraction, if there is one; digits after the ninth are passed over. -/
def fraction : TimeParser Nat := do
  match ← get with
  | '.' :: rest =>
    set rest
    let digits := (rest.take 9).takeWhile Text.isAsciiDigit
    let n ← digitsUpTo 9
    modify (·.dropWhile Text.isAsciiDigit)
    return n * Nat.pow 10 (9 - digits.length)
  | _ => return 0

/-- Two digits, the first of which is below a bound. -/
def twoDigits (firstBelow : Nat) : TimeParser Nat := do
  match ← get with
  | first :: second :: rest =>
    if !Text.isAsciiDigit first || !Text.isAsciiDigit second then throw .invalid
    else if firstBelow ≤ Text.digitValue first then throw .outOfRange
    else
      set rest
      return Text.digitValue first * 10 + Text.digitValue second
  | [only] => throw (if only.utf8Size < 2 then .tooShort else .invalid)
  | [] => throw .tooShort

/-- Hours and minutes after the sign of an offset, in minutes. -/
def offsetSize : TimeParser Int := do
  let hours ← twoDigits 10
  modify fun text => text.dropWhile fun c => c == ':' || Text.isBlank c
  let minutes ← twoDigits 6
  return ((hours * 60 + minutes : Nat) : Int)

/-- An offset in minutes. -/
def offset : TimeParser Int := do
  let text ← get
  if Text.lowerAscii (text.take 3) == ['u', 't', 'c'] then
    set (text.drop 3)
    return 0
  else
    match text with
    | [] => throw .tooShort
    | first :: rest =>
      set rest
      if first == 'Z' || first == 'z' then return 0
      else if first == '+' then offsetSize
      else if first == '-' || first == '\u2212' then Neg.neg <$> offsetSize
      else throw .invalid

/-- The parts of a moment, which need not fit together. -/
structure Parts where
  year : Int
  month : Nat
  day : Nat
  hour : Nat
  minute : Nat
  second : Nat
  nanos : Nat
  offset : Int

/-- The parts of a moment. -/
def parts : TimeParser Parts := do
  let year ← year
  mark '-'
  let month ← bounded 1 12
  mark '-'
  let day ← bounded 1 31
  separator
  let hour ← bounded 0 23
  mark ':'
  let minute ← bounded 0 59
  mark ':'
  let second ← bounded 0 60
  let nanos ← fraction
  blanks
  let offset ← offset
  return ⟨year, month, day, hour, minute, second, nanos, offset⟩

end TimeParser

/-- The time of day that clocks with an offset show; second 60 is a leap second. -/
def TimeParser.Parts.local? (parts : Parts) : Option Moment := do
  let day ← Day.of? parts.year parts.month parts.day
  let minute := parts.hour * 60 + parts.minute
  let second := if parts.second == 60 then 59 else parts.second
  let nanos := if parts.second == 60 then nanosPerSecond + parts.nanos else parts.nanos
  if h : minute < minutesPerDay ∧ second < 60 ∧ nanos < 2 * nanosPerSecond ∧
      (nanosPerSecond ≤ nanos → second = 59) then
    some ⟨day, minute, second, nanos, h.1, h.2.1, h.2.2.1, h.2.2.2⟩
  else none

/-- The moment that a text stands for. -/
def Moment.read (text : String) : Except TimeError Moment := do
  let (parts, rest) ← TimeParser.parts.run text.toList
  if !(Text.trimStart rest).isEmpty then throw .tooLong
  else
    match parts.local? with
    | none => throw .outOfRange
    | some shown =>
      if parts.offset.natAbs ≥ minutesPerDay then throw .outOfRange
      else
        match shown.withoutOffset? parts.offset with
        | some moment => return moment
        | none => throw .impossible

end Querent.Calendar

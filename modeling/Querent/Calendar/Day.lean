/-!
# Days

Days of the Gregorian calendar, extended to all years before and after its introduction.  Every year
that is representable is small enough for a machine; the day before the first and the day after the
last do not exist.
-/

namespace Querent.Calendar

/-- Whether a year has a leap day. -/
def isLeapYear (year : Int) : Bool :=
  year % 4 == 0 && (year % 100 != 0 || year % 400 == 0)

/-- The number of days of a month. -/
def daysInMonth (year : Int) (month : Nat) : Nat :=
  match month with
  | 2 => if isLeapYear year then 29 else 28
  | 4 | 6 | 9 | 11 => 30
  | _ => 31

/-- The first representable year. -/
def firstYear : Int := -262143

/-- The last representable year. -/
def lastYear : Int := 262142

/-- Whether there is a day with the given number in a month of a year. -/
def isDay (year : Int) (month day : Nat) : Bool :=
  firstYear ≤ year && year ≤ lastYear && 1 ≤ month && month ≤ 12 && 1 ≤ day &&
    day ≤ daysInMonth year month

/-- A day of the calendar. -/
structure Day where
  year : Int
  month : Nat
  day : Nat
  exists_day : isDay year month day = true
  deriving DecidableEq

namespace Day

/-- The day with the given number in a month of a year, if there is one. -/
def of? (year : Int) (month day : Nat) : Option Day :=
  if h : isDay year month day = true then some ⟨year, month, day, h⟩ else none

/-- The day after a day. -/
def next? (d : Day) : Option Day :=
  if d.day < daysInMonth d.year d.month then of? d.year d.month (d.day + 1)
  else if d.month < 12 then of? d.year (d.month + 1) 1
  else of? (d.year + 1) 1 1

/-- The day before a day. -/
def previous? (d : Day) : Option Day :=
  if 1 < d.day then of? d.year d.month (d.day - 1)
  else if 1 < d.month then of? d.year (d.month - 1) (daysInMonth d.year (d.month - 1))
  else of? (d.year - 1) 12 31

/-- The first day of the year 1970. -/
def epoch : Day := ⟨1970, 1, 1, by decide⟩

/-- A day is found by its own parts. -/
@[simp]
theorem of?_self (d : Day) : of? d.year d.month d.day = some d := by
  simp [of?, d.exists_day]

end Day

/-- Every month has at least 28 days and at most 31. -/
theorem daysInMonth_bounds (year : Int) (month : Nat) :
    28 ≤ daysInMonth year month ∧ daysInMonth year month ≤ 31 := by
  unfold daysInMonth
  split <;> try split
  all_goals omega

end Querent.Calendar

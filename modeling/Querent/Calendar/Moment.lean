import Querent.Calendar.Day
import Querent.Decimal.Digits

/-!
# Moments

Points in time to the nanosecond, kept as the day and the time of day at which clocks without an
offset show them.  The last second of a minute may be a leap second, whose fraction runs to two
seconds.  The text of a moment has as few groups of three decimals as it needs.
-/

namespace Querent.Calendar

/-- The number of minutes of a day. -/
def minutesPerDay : Nat := 1440

/-- The number of nanoseconds of a second. -/
def nanosPerSecond : Nat := 1000000000

/-- A point in time; a fraction of a whole second or more stands for a leap second. -/
structure Moment where
  day : Day
  minute : Nat
  second : Nat
  nanos : Nat
  minute_lt : minute < minutesPerDay
  second_lt : second < 60
  nanos_lt : nanos < 2 * nanosPerSecond
  leap : nanosPerSecond ≤ nanos → second = 59
  deriving DecidableEq

namespace Moment

/-- The same time of day on another day. -/
def onDay (moment : Moment) (day : Day) : Moment :=
  { moment with day := day }

/-- The same second of another minute of the day. -/
def atMinute (moment : Moment) (minute : Nat) (h : minute < minutesPerDay) : Moment :=
  { moment with minute := minute, minute_lt := h }

/--
The point in time at which clocks that are ahead by a number of minutes show a moment, if it is
representable.  The offset is less than a day.
-/
def withoutOffset? (moment : Moment) (offset : Int) : Option Moment :=
  let minute := (moment.minute : Int) - offset
  let shifted := moment.atMinute (minute % minutesPerDay).toNat (by
    have hp : (minutesPerDay : Int) = 1440 := rfl
    have h := Int.emod_lt_of_pos minute (show (0 : Int) < minutesPerDay by decide)
    have h' := Int.emod_nonneg minute (show (minutesPerDay : Int) ≠ 0 by decide)
    omega)
  if minute < 0 then moment.day.previous?.map shifted.onDay
  else if minutesPerDay ≤ minute then moment.day.next?.map shifted.onDay
  else some shifted

/-- A year with at least four digits; years with more, and those before zero, show their sign. -/
def yearText (year : Int) : List Char :=
  let digits := Decimal.paddedDigits 4 year.natAbs
  if year < 0 then '-' :: digits
  else if 9999 < year then '+' :: digits
  else digits

/-- A number with two digits. -/
def twoDigits (n : Nat) : List Char :=
  Decimal.paddedDigits 2 n

/-- A fraction of a second with as few groups of three digits as it needs. -/
def fractionText (nanos : Nat) : List Char :=
  if nanos == 0 then []
  else if nanos % 1000000 == 0 then '.' :: Decimal.paddedDigits 3 (nanos / 1000000)
  else if nanos % 1000 == 0 then '.' :: Decimal.paddedDigits 6 (nanos / 1000)
  else '.' :: Decimal.paddedDigits 9 nanos

/-- A day as a year, a month and a day of the month. -/
def dayText (day : Day) : List Char :=
  yearText day.year ++ '-' :: twoDigits day.month ++ '-' :: twoDigits day.day

/-- The text of a moment. -/
def text (moment : Moment) : String :=
  let second := moment.second + moment.nanos / nanosPerSecond
  String.ofList (dayText moment.day ++ 'T' :: twoDigits (moment.minute / 60) ++
    ':' :: twoDigits (moment.minute % 60) ++ ':' :: twoDigits second ++
    fractionText (moment.nanos % nanosPerSecond) ++ ['Z'])

/-- The text of the hour in which a moment lies. -/
def hourText (moment : Moment) : String :=
  String.ofList (dayText moment.day ++ ' ' :: twoDigits (moment.minute / 60)) ++ ":00:00"

/-- The start of the year 1970. -/
def epoch : Moment :=
  ⟨Day.epoch, 0, 0, 0, by decide, by decide, by decide, by decide⟩

/-- Clocks without an offset show a moment as it is. -/
@[simp]
theorem withoutOffset?_zero (moment : Moment) : moment.withoutOffset? 0 = some moment := by
  have h := moment.minute_lt
  have hm : ((moment.minute : Int) % minutesPerDay).toNat = moment.minute := by
    rw [Int.emod_eq_of_lt (by omega) (by exact_mod_cast h)]
    simp
  have hlt : ¬ (minutesPerDay : Int) ≤ moment.minute := by
    have : (minutesPerDay : Int) = 1440 := rfl
    have : minutesPerDay = 1440 := rfl
    omega
  have hneg : ¬ (moment.minute : Int) < 0 := by omega
  simp [withoutOffset?, atMinute, hm, hlt, hneg]

end Moment

end Querent.Calendar

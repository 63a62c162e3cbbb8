import Querent.Calendar.Moment
import Querent.Proofs.Decimal.Digits

/-!
# The course of time

Days, hours and moments are numbered as they follow each other.  The number of a day tells which of
two days is the earlier one, and stepping to a neighbour changes it by one.  A moment that is shown
with an offset is that much earlier or later without it.  In years of four digits the text of an hour
tells its place in time.
-/

namespace Querent.Calendar

/-! ## Days -/

/-- The number of days from the start of the year zero to the start of a year. -/
def daysBeforeYear (year : Int) : Int :=
  365 * year + (year + 3) / 4 - (year + 99) / 100 + (year + 399) / 400

/-- The number of days of a year. -/
def daysInYear (year : Int) : Nat :=
  if isLeapYear year then 366 else 365

/-- The number of days of a year before a month. -/
def daysBeforeMonth (year : Int) : Nat → Nat
  | 0 | 1 => 0
  | month + 2 => daysBeforeMonth year (month + 1) + daysInMonth year (month + 1)

theorem isLeapYear_iff (year : Int) :
    isLeapYear year = true ↔ year % 4 = 0 ∧ (year % 100 ≠ 0 ∨ year % 400 = 0) := by
  simp [isLeapYear]

theorem daysBeforeYear_succ (year : Int) :
    daysBeforeYear (year + 1) = daysBeforeYear year + daysInYear year := by
  unfold daysBeforeYear daysInYear
  split
  next leap =>
    have leap := (isLeapYear_iff year).1 leap
    omega
  next common =>
    have common := mt (isLeapYear_iff year).2 common
    omega

theorem daysBeforeYear_lt {first second : Int} (earlier : first < second) :
    daysBeforeYear first + daysInYear first ≤ daysBeforeYear second := by
  rw [← daysBeforeYear_succ]
  unfold daysBeforeYear
  omega

theorem daysBeforeMonth_succ (year : Int) (month : Nat) (positive : 1 ≤ month) :
    daysBeforeMonth year (month + 1) = daysBeforeMonth year month + daysInMonth year month := by
  obtain ⟨before, rfl⟩ : ∃ before, month = before + 1 := ⟨month - 1, by omega⟩
  rfl

theorem daysBeforeMonth_lt (year : Int) {first second : Nat} (positive : 1 ≤ first)
    (earlier : first < second) :
    daysBeforeMonth year first + daysInMonth year first ≤ daysBeforeMonth year second := by
  rw [← daysBeforeMonth_succ year first positive]
  obtain ⟨later, rfl⟩ : ∃ later, second = first + 1 + later := ⟨second - (first + 1), by omega⟩
  clear earlier
  induction later with
  | zero => exact Nat.le_refl _
  | succ later ih =>
    have next := daysBeforeMonth_succ year (first + 1 + later) (by omega)
    rw [← Nat.add_assoc, next]
    omega

theorem daysBeforeMonth_december (year : Int) :
    daysBeforeMonth year 12 + daysInMonth year 12 = daysInYear year := by
  simp only [daysBeforeMonth, daysInMonth, daysInYear]
  split <;> rfl

namespace Day

/-- The number of a day, counted from the start of the year zero. -/
def number (d : Day) : Int :=
  daysBeforeYear d.year + daysBeforeMonth d.year d.month + d.day

theorem bounds (d : Day) :
    1 ≤ d.month ∧ d.month ≤ 12 ∧ 1 ≤ d.day ∧ d.day ≤ daysInMonth d.year d.month := by
  have exists_day := d.exists_day
  simp only [isDay, Bool.and_eq_true, decide_eq_true_eq] at exists_day
  omega

theorem of?_eq_some_iff {year : Int} {month day : Nat} {d : Day} :
    of? year month day = some d ↔ d.year = year ∧ d.month = month ∧ d.day = day := by
  constructor
  · intro found
    unfold of? at found
    split at found
    next => cases found; exact ⟨rfl, rfl, rfl⟩
    next => cases found
  · rintro ⟨rfl, rfl, rfl⟩
    exact of?_self d

/-- The number of the days in the year of a day up to that day. -/
theorem dayOfYear_le (d : Day) : daysBeforeMonth d.year d.month + d.day ≤ daysInYear d.year := by
  obtain ⟨first, last, _, inMonth⟩ := d.bounds
  have year := daysBeforeMonth_december d.year
  rcases Nat.lt_or_ge d.month 12 with earlier | december
  · have := daysBeforeMonth_lt d.year first earlier
    omega
  · obtain december : d.month = 12 := by omega
    rw [december] at inMonth ⊢
    omega

/-- Whether a day comes before another one, by their years, months and days. -/
def Before (a b : Day) : Prop :=
  a.year < b.year ∨ a.year = b.year ∧ (a.month < b.month ∨ a.month = b.month ∧ a.day < b.day)

theorem number_lt_of_before {a b : Day} (before : a.Before b) : a.number < b.number := by
  obtain ⟨firstMonth, _, firstDay, inMonth⟩ := a.bounds
  obtain ⟨_, _, positive, _⟩ := b.bounds
  unfold number
  rcases before with year | ⟨year, month | ⟨month, day⟩⟩
  · have earlier := daysBeforeYear_lt year
    have := a.dayOfYear_le
    omega
  · have earlier := daysBeforeMonth_lt a.year firstMonth month
    rw [← year]
    omega
  · rw [← year, ← month]
    omega

theorem eq_of_not_before {a b : Day} (notBefore : ¬ a.Before b) (notAfter : ¬ b.Before a) :
    a = b := by
  obtain ⟨year, month, day, _⟩ := a
  obtain ⟨year', month', day', _⟩ := b
  simp only [Before] at notBefore notAfter
  simp only [mk.injEq]
  omega

/-- The number of a day tells its place among all days. -/
theorem number_lt_iff {a b : Day} : a.number < b.number ↔ a.Before b := by
  refine ⟨fun less => ?_, number_lt_of_before⟩
  by_cases before : a.Before b
  · exact before
  · by_cases after : b.Before a
    · have := number_lt_of_before after
      omega
    · obtain rfl := eq_of_not_before before after
      omega

theorem number_inj {a b : Day} : a.number = b.number ↔ a = b := by
  refine ⟨fun same => eq_of_not_before ?_ ?_, fun same => same ▸ rfl⟩
  · rw [← number_lt_iff]
    omega
  · rw [← number_lt_iff]
    omega

theorem number_of_next? {d later : Day} (next : d.next? = some later) :
    later.number = d.number + 1 := by
  obtain ⟨firstMonth, lastMonth, firstDay, inMonth⟩ := d.bounds
  unfold next? at next
  split at next
  next within =>
    obtain ⟨year, month, day⟩ := of?_eq_some_iff.1 next
    simp only [number, year, month, day]
    omega
  next full =>
    split at next
    next inYear =>
      obtain ⟨year, month, day⟩ := of?_eq_some_iff.1 next
      have passed := daysBeforeMonth_succ d.year d.month firstMonth
      simp only [number, year, month, day, passed]
      omega
    next december =>
      obtain ⟨year, month, day⟩ := of?_eq_some_iff.1 next
      have passed := daysBeforeMonth_december d.year
      have first : daysBeforeMonth (d.year + 1) 1 = 0 := rfl
      obtain december : d.month = 12 := by omega
      rw [december] at full inMonth
      simp only [number, year, month, day, december, daysBeforeYear_succ, first]
      omega

theorem number_of_previous? {d earlier : Day} (previous : d.previous? = some earlier) :
    earlier.number = d.number - 1 := by
  obtain ⟨firstMonth, lastMonth, firstDay, inMonth⟩ := d.bounds
  unfold previous? at previous
  split at previous
  next within =>
    obtain ⟨year, month, day⟩ := of?_eq_some_iff.1 previous
    simp only [number, year, month, day]
    omega
  next started =>
    split at previous
    next inYear =>
      obtain ⟨year, month, day⟩ := of?_eq_some_iff.1 previous
      have passed := daysBeforeMonth_succ d.year (d.month - 1) (by omega)
      rw [Nat.sub_add_cancel firstMonth] at passed
      simp only [number, year, month, day, passed]
      omega
    next january =>
      obtain ⟨year, month, day⟩ := of?_eq_some_iff.1 previous
      have passed := daysBeforeMonth_december (d.year - 1)
      have turned := daysBeforeYear_succ (d.year - 1)
      rw [Int.sub_add_cancel] at turned
      obtain january : d.month = 1 := by omega
      have first : daysBeforeMonth d.year 1 = 0 := rfl
      have length : daysInMonth (d.year - 1) 12 = 31 := rfl
      simp only [number, year, month, day, january, turned, first]
      omega

end Day

/-! ## Moments -/

namespace Moment

/-- The number of the minute in which a moment lies, counted from the start of the year zero. -/
def minuteNumber (moment : Moment) : Int :=
  moment.day.number * minutesPerDay + moment.minute

/-- The number of the hour in which a moment lies, counted from the start of the year zero. -/
def hour (moment : Moment) : Int :=
  moment.minuteNumber / 60

/-- The number of nanoseconds before a moment, counted from the start of the year zero. -/
def instant (moment : Moment) : Int :=
  (moment.minuteNumber * 60 + moment.second) * nanosPerSecond + moment.nanos

/-- Clocks that are ahead show a moment later than it is. -/
theorem minuteNumber_of_withoutOffset? {shown moment : Moment} {offset : Int}
    (lessThanDay : offset.natAbs < minutesPerDay)
    (found : shown.withoutOffset? offset = some moment) :
    moment.minuteNumber = shown.minuteNumber - offset ∧ moment.second = shown.second ∧
      moment.nanos = shown.nanos := by
  have day : (minutesPerDay : Int) = 1440 := rfl
  have natDay : minutesPerDay = 1440 := rfl
  have inDay := shown.minute_lt
  unfold withoutOffset? at found
  simp only at found
  split at found
  next before =>
    obtain ⟨earlier, previous, rfl⟩ := Option.map_eq_some_iff.1 found
    have number := Day.number_of_previous? previous
    refine ⟨?_, rfl, rfl⟩
    simp only [minuteNumber, onDay, atMinute, number, natDay]
    omega
  next inside =>
    split at found
    next after =>
      obtain ⟨later, next, rfl⟩ := Option.map_eq_some_iff.1 found
      have number := Day.number_of_next? next
      refine ⟨?_, rfl, rfl⟩
      simp only [minuteNumber, onDay, atMinute, number, natDay]
      omega
    next within =>
      obtain rfl := Option.some.inj found
      refine ⟨?_, rfl, rfl⟩
      simp only [minuteNumber, atMinute, natDay]
      omega

theorem instant_of_withoutOffset? {shown moment : Moment} {offset : Int}
    (lessThanDay : offset.natAbs < minutesPerDay)
    (found : shown.withoutOffset? offset = some moment) :
    moment.instant = shown.instant - offset * 60 * nanosPerSecond := by
  obtain ⟨minutes, seconds, nanos⟩ := minuteNumber_of_withoutOffset? lessThanDay found
  simp only [instant, minutes, seconds, nanos, nanosPerSecond]
  omega

/-! ## Hours -/

/-- Whether the year of a moment is written with four digits and no sign. -/
def HasPlainYear (moment : Moment) : Prop :=
  0 ≤ moment.day.year ∧ moment.day.year ≤ 9999

instance (moment : Moment) : Decidable moment.HasPlainYear :=
  inferInstanceAs (Decidable (_ ∧ _))

theorem yearText_of_plain {year : Int} (least : 0 ≤ year) (most : year ≤ 9999) :
    yearText year = Decimal.paddedDigits 4 year.natAbs := by
  unfold yearText
  rw [if_neg (by omega), if_neg (by omega)]

theorem toList_hourText {moment : Moment} (plain : moment.HasPlainYear) :
    moment.hourText.toList =
      Decimal.paddedDigits 4 moment.day.year.natAbs ++ ('-' :: (twoDigits moment.day.month ++
        ('-' :: (twoDigits moment.day.day ++ (' ' :: (twoDigits (moment.minute / 60) ++
          ":00:00".toList)))))) := by
  simp [hourText, dayText, yearText_of_plain plain.1 plain.2]

/-- In years of four digits, the texts of hours are ordered as the hours. -/
theorem hourText_lt_iff {a b : Moment} (first : a.HasPlainYear) (second : b.HasPlainYear) :
    a.hourText < b.hourText ↔ a.hour < b.hour := by
  have two : 0 < 2 := by decide
  have four : 0 < 4 := by decide
  have dayBound (d : Day) : d.month < Nat.pow 10 2 ∧ d.day < Nat.pow 10 2 := by
    have := d.bounds
    have := daysInMonth_bounds d.year d.month
    have : Nat.pow 10 2 = 100 := rfl
    omega
  have hourBound (m : Moment) : m.minute / 60 < Nat.pow 10 2 := by
    have : m.minute < 1440 := m.minute_lt
    have : Nat.pow 10 2 = 100 := rfl
    omega
  have yearBound {m : Moment} (plain : m.HasPlainYear) : m.day.year.natAbs < Nat.pow 10 4 := by
    have := plain.1
    have := plain.2
    have : Nat.pow 10 4 = 10000 := rfl
    omega
  have texts : a.hourText < b.hourText ↔
      a.day.year.natAbs < b.day.year.natAbs ∨ a.day.year.natAbs = b.day.year.natAbs ∧
        (a.day.month < b.day.month ∨ a.day.month = b.day.month ∧
          (a.day.day < b.day.day ∨ a.day.day = b.day.day ∧ a.minute / 60 < b.minute / 60)) := by
    rw [String.lt_iff, toList_hourText first, toList_hourText second]
    simp only [twoDigits, List.cons_lt_cons_iff, Char.lt_irrefl, false_or, true_and, List.lt_irrefl,
      and_false, or_false, Decimal.paddedDigits_append_lt_iff four (yearBound first) (yearBound second),
      Decimal.paddedDigits_append_lt_iff two (dayBound a.day).1 (dayBound b.day).1,
      Decimal.paddedDigits_append_lt_iff two (dayBound a.day).2 (dayBound b.day).2,
      Decimal.paddedDigits_append_lt_iff two (hourBound a) (hourBound b)]
  have days := Day.number_lt_iff (a := a.day) (b := b.day)
  have sameDay : a.day.number = b.day.number ↔
      a.day.year = b.day.year ∧ a.day.month = b.day.month ∧ a.day.day = b.day.day := by
    rw [Day.number_inj, ← Day.of?_eq_some_iff, Day.of?_self, Option.some.injEq, eq_comm]
  have aHour : a.minute < 1440 := a.minute_lt
  have bHour : b.minute < 1440 := b.minute_lt
  rw [texts]
  unfold Day.Before at days
  unfold hour minuteNumber minutesPerDay
  unfold HasPlainYear at first second
  omega

theorem hourText_inj {a b : Moment} (first : a.HasPlainYear) (second : b.HasPlainYear) :
    a.hourText = b.hourText ↔ a.hour = b.hour := by
  have less := hourText_lt_iff first second
  have more := hourText_lt_iff second first
  constructor
  · intro same
    simp only [same, String.lt_irrefl, false_iff] at less more
    omega
  · intro same
    refine String.le_antisymm (String.not_lt.1 fun after => ?_) (String.not_lt.1 fun before => ?_)
    · have := more.1 after
      omega
    · have := less.1 before
      omega

end Moment

end Querent.Calendar

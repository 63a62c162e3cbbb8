import Querent.Calendar.Reading
import Querent.Proofs.Calendar.Time

/-!
# Written moments

A stamp is a day, a time of day and an offset as they are written: years with four digits, any number
of decimals, and an offset in hours and minutes.  A stamp is read into its parts, and a moment that is
read, from a stamp or from any other text, lies at the instant of the parts that were read.  The text
of a moment whose year has four digits is a stamp, and it is read back as that moment.
-/

namespace Querent.Calendar

namespace TimeParser

/-! ## Steps -/

/-- Whether a parser reads a value at the start of a text and leaves the rest of it. -/
def Reads {α : Type} (parser : TimeParser α) (text : List Char) (value : α) (rest : List Char) :
    Prop :=
  parser.run text = .ok (value, rest)

variable {α β : Type}

theorem reads_pure (value : α) (text : List Char) :
    Reads (pure value : TimeParser α) text value text := rfl

theorem reads_get (text : List Char) : Reads get text text text := rfl

theorem reads_set (text rest : List Char) : Reads (set rest) text () rest := rfl

theorem reads_modify (change : List Char → List Char) (text : List Char) :
    Reads (modify change) text () (change text) := rfl

theorem Reads.bind {parser : TimeParser α} {next : α → TimeParser β} {text middle rest : List Char}
    {first : α} {second : β} (start : Reads parser text first middle)
    (more : Reads (next first) middle second rest) : Reads (parser >>= next) text second rest := by
  unfold Reads at start more ⊢
  rw [StateT.run_bind, start]
  exact more

theorem Reads.map {parser : TimeParser α} {text rest : List Char} {value : α} (change : α → β)
    (read : Reads parser text value rest) : Reads (change <$> parser) text (change value) rest := by
  unfold Reads at read ⊢
  rw [StateT.run_map, read]
  rfl

theorem isBlank_of_isAsciiDigit {c : Char} (digit : Text.isAsciiDigit c = true) :
    Text.isBlank c = false := by
  have bounds := Decimal.isAsciiDigit_iff.1 digit
  simp only [Text.isBlank, Text.blankSpans, Text.inSpans_cons, Text.inSpans_nil, Bool.or_false,
    Bool.or_eq_false_iff, Bool.and_eq_false_iff, decide_eq_false_iff_not]
  omega

/-- Whether a text starts with a character that is no blank. -/
def Solid (text : List Char) : Prop :=
  ∃ c rest, text = c :: rest ∧ Text.isBlank c = false

theorem solid_cons {c : Char} (solid : Text.isBlank c = false) (rest : List Char) :
    Solid (c :: rest) :=
  ⟨c, rest, rfl, solid⟩

theorem reads_blanks {text : List Char} (solid : Solid text) : Reads blanks text () text := by
  obtain ⟨c, rest, rfl, solid⟩ := solid
  have kept : Text.trimStart (c :: rest) = c :: rest := List.dropWhile_cons_of_neg (by simp [solid])
  have read := reads_modify Text.trimStart (c :: rest)
  rwa [kept] at read

theorem reads_mark {c : Char} (solid : Text.isBlank c = false) (rest : List Char) :
    Reads (mark c) (c :: rest) () rest := by
  refine (reads_blanks (solid_cons solid rest)).bind ((reads_get _).bind ?_)
  simp only [beq_self_eq_true, if_true]
  exact reads_set _ rest

/-! ## Numbers -/

theorem reads_digitsUpTo {most : Nat} {digits rest : List Char} (some : digits ≠ [])
    (ends : ((digits ++ rest).take most).takeWhile Text.isAsciiDigit = digits)
    (small : Decimal.ofDigits digits ≤ largestNumber) :
    Reads (digitsUpTo most) (digits ++ rest) (Decimal.ofDigits digits) rest := by
  have text : (digits ++ rest).isEmpty = false := by simp [some]
  have group : digits.isEmpty = false := by simp [some]
  have after : (digits ++ rest).drop digits.length = rest := List.drop_left
  refine (reads_get _).bind ?_
  simp only [ends, text, group, after, Bool.false_eq_true, if_false, if_neg (Nat.not_lt.2 small)]
  exact (reads_set _ rest).bind (reads_pure _ rest)

/-- A group of digits of the greatest length ends where it ends. -/
theorem takeWhile_take_of_length {most : Nat} {digits : List Char}
    (all : ∀ c ∈ digits, Text.isAsciiDigit c = true) (long : digits.length = most)
    (rest : List Char) : ((digits ++ rest).take most).takeWhile Text.isAsciiDigit = digits := by
  rw [← long, List.take_left]
  rw [← List.append_nil digits, List.takeWhile_append_of_pos all, List.takeWhile_nil]

/-- A number that is written in so many places is read from so many digits. -/
theorem reads_paddedDigits {places n : Nat} (positive : 0 < places) (few : places ≤ 9)
    (fits : n < Nat.pow 10 places) (rest : List Char) :
    Reads (digitsUpTo places) (Decimal.paddedDigits places n ++ rest) n rest := by
  have long := Decimal.length_paddedDigits positive fits
  have all : ∀ c ∈ Decimal.paddedDigits places n, Text.isAsciiDigit c = true :=
    fun _ member => Decimal.isAsciiDigit_of_mem_paddedDigits member
  have bound : Nat.pow 10 places ≤ Nat.pow 10 9 := Nat.pow_le_pow_right (by decide) few
  have nine : Nat.pow 10 9 ≤ largestNumber := by decide
  have read : Reads (digitsUpTo places) _ _ rest := reads_digitsUpTo
    (List.ne_nil_of_length_pos (long.symm ▸ positive)) (takeWhile_take_of_length all long rest)
    (by rw [Decimal.ofDigits_paddedDigits]; omega)
  rwa [Decimal.ofDigits_paddedDigits] at read

/-- What is written with leading zeros starts with a digit. -/
theorem paddedDigits_append_eq_cons (places n : Nat) (rest : List Char) :
    ∃ c more, Decimal.paddedDigits places n ++ rest = c :: more ∧ Text.isAsciiDigit c = true := by
  have some := Decimal.length_paddedDigits_pos places n
  cases digits : Decimal.paddedDigits places n with
  | nil => simp [digits] at some
  | cons c more =>
    have member : c ∈ Decimal.paddedDigits places n := digits ▸ List.mem_cons_self
    exact ⟨c, more ++ rest, rfl, Decimal.isAsciiDigit_of_mem_paddedDigits member⟩

theorem solid_paddedDigits (places n : Nat) (rest : List Char) :
    Solid (Decimal.paddedDigits places n ++ rest) := by
  obtain ⟨c, more, text, digit⟩ := paddedDigits_append_eq_cons places n rest
  rw [text]
  exact solid_cons (isBlank_of_isAsciiDigit digit) more

theorem reads_bounded {least greatest n : Nat} (above : least ≤ n) (below : n ≤ greatest)
    (fits : n < 100) (rest : List Char) :
    Reads (bounded least greatest) (Moment.twoDigits n ++ rest) n rest := by
  refine (reads_blanks (solid_paddedDigits 2 n rest)).bind
    ((reads_paddedDigits (by decide) (by decide) fits rest).bind ?_)
  have within : ¬ (n < least || greatest < n) = true := by
    simp only [Bool.or_eq_true, decide_eq_true_eq]
    omega
  rw [if_neg within]
  exact reads_pure n rest

theorem reads_year {n : Nat} (fits : n < 10000) (rest : List Char) :
    Reads year (Decimal.paddedDigits 4 n ++ rest) n rest := by
  have four : 0 < 4 := by decide
  have digits := reads_paddedDigits four (by decide) fits rest
  have within : ¬ (decide ((n : Int) < -Nat.pow 2 31) || decide ((Nat.pow 2 31 : Int) ≤ n)) = true := by
    have : Nat.pow 2 31 = 2147483648 := rfl
    simp only [Bool.or_eq_true, decide_eq_true_eq]
    omega
  refine (reads_blanks (solid_paddedDigits 4 n rest)).bind ((reads_get _).bind ?_)
  obtain ⟨c, more, text, digit⟩ := paddedDigits_append_eq_cons 4 n rest
  rw [text] at digits ⊢
  split
  next heading => cases heading; cases digit
  next heading => cases heading; cases digit
  next =>
    refine digits.bind ((reads_pure _ rest).bind ?_)
    simp only [if_neg within]
    exact reads_pure _ rest

theorem reads_separator {c : Char} (named : c = 'T' ∨ c = 't' ∨ c = ' ') (rest : List Char) :
    Reads separator (c :: rest) () rest := by
  have known : (c == 'T' || c == 't' || c == ' ') = true := by
    simpa [or_assoc] using named
  refine (reads_get _).bind ?_
  simp only [known, if_true]
  exact reads_set _ rest

/-! ## Fractions -/

/-- The decimals of a second after their point, or nothing if there are none. -/
def decimalsText (decimals : List Char) : List Char :=
  if decimals.isEmpty then [] else '.' :: decimals

/-- The whole nanoseconds of decimals of a second. -/
def decimalsNanos (decimals : List Char) : Nat :=
  Decimal.ofDigits decimals * nanosPerSecond / Nat.pow 10 decimals.length

/-- The decimals after the ninth do not add a whole nanosecond. -/
theorem decimalsNanos_eq {decimals : List Char}
    (all : ∀ c ∈ decimals, Text.isAsciiDigit c = true) :
    decimalsNanos decimals =
      Decimal.ofDigits (decimals.take 9) * Nat.pow 10 (9 - (decimals.take 9).length) := by
  have later : ∀ c ∈ decimals.drop 9, Text.isAsciiDigit c = true :=
    fun c member => all c (List.mem_of_mem_drop member)
  have small := Decimal.ofDigits_lt later
  have whole := Decimal.ofDigits_append (decimals.take 9) (decimals.drop 9)
  rw [List.take_append_drop] at whole
  have second : nanosPerSecond = Nat.pow 10 9 := rfl
  rcases Nat.le_total decimals.length 9 with short | long
  · have kept : decimals.take 9 = decimals := List.take_of_length_le short
    have power : nanosPerSecond = Nat.pow 10 (9 - decimals.length) * Nat.pow 10 decimals.length := by
      rw [second]
      show 10 ^ 9 = 10 ^ (9 - decimals.length) * 10 ^ decimals.length
      rw [← Nat.pow_add, Nat.sub_add_cancel short]
    rw [kept, decimalsNanos, power, ← Nat.mul_assoc]
    exact Nat.mul_div_cancel _ (Nat.pow_pos (by decide))
  · have count : (decimals.take 9).length = 9 := by
      rw [List.length_take]
      omega
    have power : Nat.pow 10 decimals.length = Nat.pow 10 (decimals.drop 9).length * nanosPerSecond := by
      rw [second, List.length_drop]
      show 10 ^ decimals.length = 10 ^ (decimals.length - 9) * 10 ^ 9
      rw [← Nat.pow_add, Nat.sub_add_cancel long]
    have positive : 0 < Nat.pow 10 (decimals.drop 9).length := Nat.pow_pos (by decide)
    rw [decimalsNanos, power, Nat.mul_div_mul_right _ _ (by decide), whole, count,
      Nat.add_comm, Nat.add_mul_div_right _ _ positive, Nat.div_eq_of_lt small, Nat.zero_add]
    exact (Nat.mul_one _).symm

/-- Whether a text starts with neither a digit nor a point. -/
def EndsFraction (text : List Char) : Prop :=
  ∀ c rest, text = c :: rest → Text.isAsciiDigit c = false ∧ c ≠ '.'

theorem takeWhile_digits_of_endsFraction {text : List Char} (ends : EndsFraction text)
    (most : Nat) : (text.take most).takeWhile Text.isAsciiDigit = [] := by
  cases text with
  | nil => simp
  | cons c rest => cases most <;> simp [(ends c rest rfl).1]

theorem dropWhile_digits_of_endsFraction {text : List Char} (ends : EndsFraction text) :
    text.dropWhile Text.isAsciiDigit = text := by
  cases text with
  | nil => rfl
  | cons c rest => simp [(ends c rest rfl).1]

theorem reads_fraction {decimals rest : List Char}
    (all : ∀ c ∈ decimals, Text.isAsciiDigit c = true) (ends : EndsFraction rest) :
    Reads fraction (decimalsText decimals ++ rest) (decimalsNanos decimals) rest := by
  have first : ∀ c ∈ decimals.take 9, Text.isAsciiDigit c = true :=
    fun c member => all c (List.mem_of_mem_take member)
  have passed : (decimals.drop 9 ++ rest).dropWhile Text.isAsciiDigit = rest := by
    rw [List.dropWhile_append_of_pos fun c member => all c (List.mem_of_mem_drop member),
      dropWhile_digits_of_endsFraction ends]
  have group : ((decimals ++ rest).take 9).takeWhile Text.isAsciiDigit = decimals.take 9 := by
    rw [List.take_append, List.takeWhile_append_of_pos first,
      takeWhile_digits_of_endsFraction ends, List.append_nil]
  have whole : decimals.take 9 ++ (decimals.drop 9 ++ rest) = decimals ++ rest := by
    rw [← List.append_assoc, List.take_append_drop]
  have small : Decimal.ofDigits (decimals.take 9) ≤ largestNumber := by
    have bound := Decimal.ofDigits_lt first
    have power : Nat.pow 10 (decimals.take 9).length ≤ Nat.pow 10 9 :=
      Nat.pow_le_pow_right (by decide) (List.length_take_le 9 decimals)
    have nine : Nat.pow 10 9 ≤ largestNumber := by decide
    omega
  cases none : decimals with
  | nil =>
    refine (reads_get _).bind ?_
    split
    next more text => exact absurd rfl (ends '.' more text).2
    next => exact reads_pure 0 rest
  | cons c more =>
    rw [← none]
    have point : decimalsText decimals ++ rest = '.' :: (decimals ++ rest) := by
      simp [decimalsText, none]
    have digits : Reads (digitsUpTo 9) (decimals.take 9 ++ (decimals.drop 9 ++ rest)) _ _ :=
      reads_digitsUpTo (by simp [none]) (by rw [whole, group]) small
    rw [whole] at digits
    have dropped := reads_modify (·.dropWhile Text.isAsciiDigit) (decimals.drop 9 ++ rest)
    rw [passed] at dropped
    rw [point, decimalsNanos_eq all]
    refine (reads_get _).bind ((reads_set _ _).bind (digits.bind (dropped.bind ?_)))
    rw [group]
    exact reads_pure _ rest

/-! ## Offsets -/

theorem reads_twoDigits {firstBelow n : Nat} (low : n / 10 < firstBelow) (fits : n < 100)
    (rest : List Char) : Reads (twoDigits firstBelow) (Moment.twoDigits n ++ rest) n rest := by
  have tens : n / 10 < 10 := by omega
  have units : n % 10 < 10 := by omega
  have written : Moment.twoDigits n ++ rest =
      (n / 10).digitChar :: (n % 10).digitChar :: rest := by
    rw [Moment.twoDigits, Decimal.paddedDigits_succ (by decide), Decimal.paddedDigits_one tens]
    rfl
  have value {k : Nat} (small : k < 10) : Text.digitValue k.digitChar = k :=
    Nat.toNat_digitChar_sub_48_of_lt_ten small
  have digit {k : Nat} (small : k < 10) : Text.isAsciiDigit k.digitChar = true := by
    have code := Nat.toNat_digitChar_of_lt_ten small
    exact Decimal.isAsciiDigit_iff.2 (by omega)
  have sum : n / 10 * 10 + n % 10 = n := by omega
  rw [written]
  refine (reads_get _).bind ?_
  simp only [digit tens, digit units, value tens, value units, Bool.not_true, Bool.or_self,
    Bool.false_eq_true, if_false, if_neg (Nat.not_le.2 low)]
  refine (reads_set _ rest).bind ?_
  rw [sum]
  exact reads_pure n rest

theorem reads_offsetSize {hours minutes : Nat} (inDay : hours < 24) (inHour : minutes < 60)
    (rest : List Char) :
    Reads offsetSize (Moment.twoDigits hours ++ ':' :: (Moment.twoDigits minutes ++ rest))
      ((hours * 60 + minutes : Nat) : Int) rest := by
  have colon := reads_modify (fun text => text.dropWhile fun c => c == ':' || Text.isBlank c)
    (':' :: (Moment.twoDigits minutes ++ rest))
  have passed : (':' :: (Moment.twoDigits minutes ++ rest)).dropWhile
      (fun c => c == ':' || Text.isBlank c) = Moment.twoDigits minutes ++ rest := by
    obtain ⟨c, more, text, digit⟩ := paddedDigits_append_eq_cons 2 minutes rest
    have other : (c == ':' || Text.isBlank c) = false := by
      rw [isBlank_of_isAsciiDigit digit, Bool.or_false, beq_eq_false_iff_ne]
      rintro rfl
      cases digit
    rw [Moment.twoDigits, text, List.dropWhile_cons_of_pos (by simp),
      List.dropWhile_cons_of_neg (by simp [other])]
  rw [passed] at colon
  exact (reads_twoDigits (by omega) (by omega) _).bind
    (colon.bind ((reads_twoDigits (by omega) (by omega) rest).bind (reads_pure _ rest)))

end TimeParser

/-- How far clocks are ahead of those without an offset, as it is written. -/
inductive Zone where
  | utc (letter : Char) (named : letter = 'Z' ∨ letter = 'z')
  | ahead (hours minutes : Nat) (hours_lt : hours < 24) (minutes_lt : minutes < 60)
  | behind (hours minutes : Nat) (hours_lt : hours < 24) (minutes_lt : minutes < 60)

namespace Zone

/-- The text of an offset. -/
def text : Zone → List Char
  | utc letter _ => [letter]
  | ahead hours minutes _ _ => '+' :: (Moment.twoDigits hours ++ ':' :: Moment.twoDigits minutes)
  | behind hours minutes _ _ => '-' :: (Moment.twoDigits hours ++ ':' :: Moment.twoDigits minutes)

/-- The minutes by which clocks are ahead. -/
def offset : Zone → Int
  | utc _ _ => 0
  | ahead hours minutes _ _ => ((hours * 60 + minutes : Nat) : Int)
  | behind hours minutes _ _ => -((hours * 60 + minutes : Nat) : Int)

/-- An offset starts with a letter or a sign. -/
theorem text_eq_cons (zone : Zone) :
    ∃ c rest, zone.text = c :: rest ∧ (c = 'Z' ∨ c = 'z' ∨ c = '+' ∨ c = '-') := by
  cases zone with
  | utc letter named => exact ⟨letter, [], rfl, named.elim .inl fun small => .inr (.inl small)⟩
  | ahead hours minutes _ _ => exact ⟨'+', _, rfl, .inr (.inr (.inl rfl))⟩
  | behind hours minutes _ _ => exact ⟨'-', _, rfl, .inr (.inr (.inr rfl))⟩

theorem endsFraction (zone : Zone) : TimeParser.EndsFraction zone.text := by
  obtain ⟨first, more, text, named⟩ := zone.text_eq_cons
  intro c rest heading
  obtain rfl : first = c := by
    rw [text] at heading
    exact (List.cons.inj heading).1
  rcases named with rfl | rfl | rfl | rfl <;> decide

theorem solid (zone : Zone) : TimeParser.Solid zone.text := by
  obtain ⟨first, more, text, named⟩ := zone.text_eq_cons
  rw [text]
  apply TimeParser.solid_cons
  rcases named with rfl | rfl | rfl | rfl <;> decide

end Zone

namespace TimeParser

theorem reads_offset (zone : Zone) : Reads offset zone.text zone.offset [] := by
  have size {hours minutes : Nat} (inDay : hours < 24) (inHour : minutes < 60) :
      Reads offsetSize (Moment.twoDigits hours ++ ':' :: Moment.twoDigits minutes)
        ((hours * 60 + minutes : Nat) : Int) [] := by
    have read := reads_offsetSize inDay inHour []
    rwa [List.append_nil] at read
  refine (reads_get _).bind ?_
  cases zone with
  | utc letter named =>
    rcases named with rfl | rfl <;> exact (reads_set _ []).bind (reads_pure 0 [])
  | ahead hours minutes inDay inHour =>
    exact (reads_set _ _).bind (size inDay inHour)
  | behind hours minutes inDay inHour =>
    exact (reads_set _ _).bind ((size inDay inHour).map _)

end TimeParser

/-! ## Stamps -/

/-- A day, a time of day and an offset as they are written; second 60 is a leap second. -/
structure Stamp where
  year : Nat
  month : Nat
  day : Nat
  separator : Char
  hour : Nat
  minute : Nat
  second : Nat
  decimals : List Char
  zone : Zone
  year_lt : year < 10000
  month_bounds : 1 ≤ month ∧ month ≤ 12
  day_bounds : 1 ≤ day ∧ day ≤ 31
  separates : separator = 'T' ∨ separator = 't' ∨ separator = ' '
  hour_lt : hour < 24
  minute_lt : minute < 60
  second_le : second ≤ 60
  digits : ∀ c ∈ decimals, Text.isAsciiDigit c = true

namespace Stamp

/-- The characters of a stamp. -/
def chars (stamp : Stamp) : List Char :=
  Decimal.paddedDigits 4 stamp.year ++ '-' :: (Moment.twoDigits stamp.month ++
    '-' :: (Moment.twoDigits stamp.day ++ stamp.separator :: (Moment.twoDigits stamp.hour ++
      ':' :: (Moment.twoDigits stamp.minute ++ ':' :: (Moment.twoDigits stamp.second ++
        (TimeParser.decimalsText stamp.decimals ++ stamp.zone.text))))))

/-- The text of a stamp. -/
def text (stamp : Stamp) : String :=
  String.ofList stamp.chars

/-- The numbers of a stamp. -/
def parts (stamp : Stamp) : TimeParser.Parts :=
  ⟨stamp.year, stamp.month, stamp.day, stamp.hour, stamp.minute, stamp.second,
    TimeParser.decimalsNanos stamp.decimals, stamp.zone.offset⟩

/-- A stamp is read into its numbers, and nothing of it is left. -/
theorem reads_parts (stamp : Stamp) : TimeParser.Reads TimeParser.parts stamp.chars stamp.parts [] := by
  have month := stamp.month_bounds
  have day := stamp.day_bounds
  have hour := stamp.hour_lt
  have minute := stamp.minute_lt
  have second := stamp.second_le
  -- One step for each part, in the order of the text.
  refine (TimeParser.reads_year stamp.year_lt _).bind ?_
  refine (TimeParser.reads_mark (by decide) _).bind ?_
  refine (TimeParser.reads_bounded month.1 month.2 (by omega) _).bind ?_
  refine (TimeParser.reads_mark (by decide) _).bind ?_
  refine (TimeParser.reads_bounded day.1 day.2 (by omega) _).bind ?_
  refine (TimeParser.reads_separator stamp.separates _).bind ?_
  refine (TimeParser.reads_bounded (Nat.zero_le _) (by omega) (by omega) _).bind ?_
  refine (TimeParser.reads_mark (by decide) _).bind ?_
  refine (TimeParser.reads_bounded (Nat.zero_le _) (by omega) (by omega) _).bind ?_
  refine (TimeParser.reads_mark (by decide) _).bind ?_
  refine (TimeParser.reads_bounded (Nat.zero_le _) second (by omega) _).bind ?_
  refine (TimeParser.reads_fraction stamp.digits stamp.zone.endsFraction).bind ?_
  refine (TimeParser.reads_blanks stamp.zone.solid).bind ?_
  exact (TimeParser.reads_offset stamp.zone).bind (TimeParser.reads_pure _ [])

end Stamp

/-! ## Instants -/

/-- The instant of parts, counted in nanoseconds from the start of the year zero. -/
def TimeParser.Parts.instant (parts : TimeParser.Parts) : Int :=
  let day := daysBeforeYear parts.year + daysBeforeMonth parts.year parts.month + parts.day
  let minute := day * minutesPerDay + parts.hour * 60 + parts.minute - parts.offset
  (minute * 60 + parts.second) * nanosPerSecond + parts.nanos

/-- The instant of a stamp, counted in whole nanoseconds from the start of the year zero. -/
def Stamp.instant (stamp : Stamp) : Int :=
  stamp.parts.instant

/-- Parts show a moment with the same numbers, except that a leap second belongs to second 59. -/
theorem TimeParser.Parts.local?_eq_some_iff {parts : TimeParser.Parts} {shown : Moment} :
    parts.local? = some shown ↔
      (shown.day.year = parts.year ∧ shown.day.month = parts.month ∧ shown.day.day = parts.day) ∧
        shown.minute = parts.hour * 60 + parts.minute ∧
        shown.second = (if parts.second == 60 then 59 else parts.second) ∧
        shown.nanos =
          (if parts.second == 60 then nanosPerSecond + parts.nanos else parts.nanos) := by
  simp only [TimeParser.Parts.local?, Option.bind_eq_bind, Option.bind_eq_some_iff,
    Day.of?_eq_some_iff]
  constructor
  · rintro ⟨day, same, found⟩
    by_cases bounds : parts.hour * 60 + parts.minute < minutesPerDay ∧
        (if parts.second == 60 then 59 else parts.second) < 60 ∧
        (if parts.second == 60 then nanosPerSecond + parts.nanos else parts.nanos) <
          2 * nanosPerSecond ∧
        (nanosPerSecond ≤
            (if parts.second == 60 then nanosPerSecond + parts.nanos else parts.nanos) →
          (if parts.second == 60 then 59 else parts.second) = 59)
    · rw [dif_pos bounds] at found
      obtain rfl := Option.some.inj found
      exact ⟨same, rfl, rfl, rfl⟩
    · rw [dif_neg bounds] at found
      cases found
  · obtain ⟨day, minute, second, nanos, inDay, inMinute, most, leap⟩ := shown
    rintro ⟨same, minutes, seconds, all⟩
    subst minutes seconds all
    exact ⟨day, same, dif_pos ⟨inDay, inMinute, most, leap⟩⟩

/-- A leap second is the second after the one before it. -/
theorem TimeParser.Parts.instant_of_local? {parts : TimeParser.Parts} {shown : Moment}
    (found : parts.local? = some shown) :
    shown.instant - parts.offset * 60 * nanosPerSecond = parts.instant := by
  have day : (minutesPerDay : Int) = 1440 := rfl
  have second : nanosPerSecond = 1000000000 := rfl
  obtain ⟨⟨year, month, inMonth⟩, minutes, seconds, nanos⟩ :=
    TimeParser.Parts.local?_eq_some_iff.1 found
  simp only [Moment.instant, Moment.minuteNumber, Day.number, TimeParser.Parts.instant, year,
    month, inMonth, minutes, seconds, nanos, day, second, beq_iff_eq]
  split
  next leap => rw [leap]; omega
  next => omega

/-- A moment is read from parts with nothing but blanks after them, if the parts make up a moment. -/
theorem Moment.read_eq_ok_iff {text : String} {moment : Moment} :
    Moment.read text = .ok moment ↔
      ∃ parts rest shown, TimeParser.Reads TimeParser.parts text.toList parts rest ∧
        Text.trimStart rest = [] ∧ parts.local? = some shown ∧
        parts.offset.natAbs < minutesPerDay ∧ shown.withoutOffset? parts.offset = some moment := by
  unfold Moment.read TimeParser.Reads
  constructor
  · intro read
    cases found : TimeParser.parts.run text.toList with
    | error error => rw [found] at read; cases read
    | ok value =>
      obtain ⟨parts, rest⟩ := value
      simp only [found, bind, Except.bind] at read
      split at read
      next => cases read
      next ended =>
        split at read
        next => cases read
        next shown local_eq =>
          split at read
          next => cases read
          next inDay =>
            split at read
            next found =>
              obtain rfl := Except.ok.inj read
              exact ⟨parts, rest, shown, rfl, by simpa using ended, local_eq,
                Nat.lt_of_not_ge inDay, found⟩
            next => cases read
  · rintro ⟨parts, rest, shown, found, ended, local_eq, inDay, moved⟩
    simp [found, ended, local_eq, Nat.not_le.2 inDay, moved, bind, Except.bind]
    rfl

/-- The instant of the parts at the start of a text, whether or not they make up a moment. -/
def instantOf? (text : String) : Option Int :=
  match TimeParser.parts.run text.toList with
  | .ok (parts, _) => some parts.instant
  | .error _ => none

theorem instantOf?_stamp (stamp : Stamp) : instantOf? stamp.text = some stamp.instant := by
  have written := stamp.reads_parts
  unfold TimeParser.Reads at written
  rw [instantOf?, Stamp.text, String.toList_ofList, written]
  rfl

/-- A moment that is read lies at the instant of the parts that are read, whatever the text. -/
theorem instantOf?_of_read {text : String} {moment : Moment}
    (read : Moment.read text = .ok moment) : instantOf? text = some moment.instant := by
  obtain ⟨parts, rest, shown, found, _, local_eq, inDay, moved⟩ := Moment.read_eq_ok_iff.1 read
  unfold TimeParser.Reads at found
  rw [instantOf?, found, Moment.instant_of_withoutOffset? inDay moved,
    TimeParser.Parts.instant_of_local? local_eq]

/-- Whether a text tells the time of a moment: the instant of its parts, and of the stamp that it may
be, is that of the moment. -/
structure Tells (text : String) (moment : Moment) : Prop where
  parts : instantOf? text = some moment.instant
  stamp : ∀ stamp : Stamp, stamp.text = text → stamp.instant = moment.instant

theorem tells_of_read {text : String} {moment : Moment} (read : Moment.read text = .ok moment) :
    Tells text moment := by
  have parts := instantOf?_of_read read
  refine ⟨parts, fun stamp same => ?_⟩
  rw [← same, instantOf?_stamp] at parts
  exact Option.some.inj parts

/-! ## Writing and reading back -/

namespace Moment

/-- The decimals in the text of a moment. -/
def decimals (nanos : Nat) : List Char :=
  if nanos = 0 then []
  else if nanos % 1000000 = 0 then Decimal.paddedDigits 3 (nanos / 1000000)
  else if nanos % 1000 = 0 then Decimal.paddedDigits 6 (nanos / 1000)
  else Decimal.paddedDigits 9 nanos

theorem fractionText_eq (nanos : Nat) :
    fractionText nanos = TimeParser.decimalsText (decimals nanos) := by
  have some (places n : Nat) : (Decimal.paddedDigits places n).isEmpty = false := by
    simpa using List.ne_nil_of_length_pos (Decimal.length_paddedDigits_pos places n)
  unfold fractionText decimals TimeParser.decimalsText
  simp only [beq_iff_eq]
  split
  next => rfl
  next =>
    split
    next => simp [some]
    next =>
      split
      next => simp [some]
      next => simp [some]

theorem digits_decimals (nanos : Nat) : ∀ c ∈ decimals nanos, Text.isAsciiDigit c = true := by
  unfold decimals
  intro c member
  split at member
  next => cases member
  next =>
    split at member
    next => exact Decimal.isAsciiDigit_of_mem_paddedDigits member
    next =>
      split at member
      next => exact Decimal.isAsciiDigit_of_mem_paddedDigits member
      next => exact Decimal.isAsciiDigit_of_mem_paddedDigits member

/-- No nanosecond is lost by leaving out groups of zeros. -/
theorem decimalsNanos_decimals {nanos : Nat} (small : nanos < nanosPerSecond) :
    TimeParser.decimalsNanos (decimals nanos) = nanos := by
  have second : nanosPerSecond = 1000000000 := rfl
  have three : Nat.pow 10 3 = 1000 := rfl
  have six : Nat.pow 10 6 = 1000000 := rfl
  have nine : Nat.pow 10 9 = 1000000000 := rfl
  unfold decimals TimeParser.decimalsNanos
  split
  next zero => subst zero; rfl
  next =>
    split
    next =>
      rw [Decimal.ofDigits_paddedDigits, Decimal.length_paddedDigits (by decide) (by omega), second,
        three]
      omega
    next =>
      split
      next =>
        rw [Decimal.ofDigits_paddedDigits, Decimal.length_paddedDigits (by decide) (by omega),
          second, six]
        omega
      next =>
        rw [Decimal.ofDigits_paddedDigits, Decimal.length_paddedDigits (by decide) (by omega),
          second, nine]
        omega

/-- The stamp that the text of a moment is; a leap second has number 60. -/
def stamp (moment : Moment) (plain : moment.HasPlainYear) : Stamp where
  year := moment.day.year.natAbs
  month := moment.day.month
  day := moment.day.day
  separator := 'T'
  hour := moment.minute / 60
  minute := moment.minute % 60
  second := moment.second + moment.nanos / nanosPerSecond
  decimals := decimals (moment.nanos % nanosPerSecond)
  zone := .utc 'Z' (.inl rfl)
  year_lt := by
    have := plain.1
    have := plain.2
    omega
  month_bounds := ⟨moment.day.bounds.1, moment.day.bounds.2.1⟩
  day_bounds := by
    have := moment.day.bounds
    have := daysInMonth_bounds moment.day.year moment.day.month
    omega
  separates := .inl rfl
  hour_lt := by
    have : moment.minute < 1440 := moment.minute_lt
    omega
  minute_lt := Nat.mod_lt _ (by decide)
  second_le := by
    have second := moment.second_lt
    have leap := moment.leap
    have nanos := moment.nanos_lt
    unfold nanosPerSecond at leap nanos ⊢
    omega
  digits := digits_decimals _

theorem text_stamp (moment : Moment) (plain : moment.HasPlainYear) :
    (moment.stamp plain).text = moment.text := by
  unfold Stamp.text text
  congr 1
  simp [Stamp.chars, stamp, dayText, yearText_of_plain plain.1 plain.2, fractionText_eq, Zone.text]

theorem local?_stamp (moment : Moment) (plain : moment.HasPlainYear) :
    (moment.stamp plain).parts.local? = some moment := by
  rw [TimeParser.Parts.local?_eq_some_iff]
  have inMinute := moment.second_lt
  have leap := moment.leap
  have most := moment.nanos_lt
  have nanos : (moment.stamp plain).parts.nanos = moment.nanos % nanosPerSecond :=
    decimalsNanos_decimals (Nat.mod_lt _ (by decide))
  have second : (moment.stamp plain).parts.second =
      moment.second + moment.nanos / nanosPerSecond := rfl
  have minute : moment.minute = moment.minute / 60 * 60 + moment.minute % 60 := by omega
  rw [nanos, second]
  refine ⟨⟨(Int.natAbs_of_nonneg plain.1).symm, rfl, rfl⟩, minute, ?_, ?_⟩
  · simp only [beq_iff_eq]
    unfold nanosPerSecond at leap most ⊢
    split <;> omega
  · simp only [beq_iff_eq]
    unfold nanosPerSecond at leap most ⊢
    split <;> omega

/-- The text of a moment in a year of four digits is read back as that moment. -/
theorem read_text {moment : Moment} (plain : moment.HasPlainYear) :
    Moment.read moment.text = .ok moment := by
  have written := (moment.stamp plain).reads_parts
  rw [Moment.read_eq_ok_iff, ← text_stamp moment plain, Stamp.text, String.toList_ofList]
  exact ⟨_, [], moment, written, rfl, local?_stamp moment plain,
    (by decide : (0 : Int).natAbs < minutesPerDay), withoutOffset?_zero moment⟩

end Moment

end Querent.Calendar

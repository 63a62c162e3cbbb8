import Querent.Proofs.Sql.Lookahead.Readers

/-!
# What stands behind a number

A number is scanned in parts: whole digits, a point, a fraction, a power of ten, and the letters that
make it something else.  Each part is read up to a character that is none of it.  Only a power of ten
is looked for further ahead, up to its first digit.
-/

namespace Querent.Sql.Lexer

variable {digits sign letters rest text behind behind' : List Char} {e : Char}

/-! ## Powers of ten -/

/-- Whether a character starts a power of ten. -/
def startsPower (c : Char) : Bool :=
  c == 'e' || c == 'E'

/-- Whether a character is a sign. -/
def isSign (c : Char) : Bool :=
  c == '+' || c == '-'

/-- Whether a sign stands before a text, or there is none. -/
inductive Signed : List Char → List Char → Prop where
  | plus (rest : List Char) : Signed ['+'] rest
  | minus (rest : List Char) : Signed ['-'] rest
  | unsigned {rest : List Char} (stops : Stops isSign rest) : Signed [] rest

theorem exists_signed (text : List Char) : ∃ sign rest, text = sign ++ rest ∧ Signed sign rest := by
  by_cases unsigned : Stops isSign text
  · exact ⟨[], text, rfl, .unsigned unsigned⟩
  · cases text with
    | nil => exact absurd (by simp [Stops]) unsigned
    | cons c rest =>
        have signed : c = '+' ∨ c = '-' := by
          by_contra other
          refine unsigned ?_
          rintro _ ⟨⟩
          simpa [isSign] using other
        rcases signed with rfl | rfl
        · exact ⟨['+'], rest, rfl, .plus rest⟩
        · exact ⟨['-'], rest, rfl, .minus rest⟩

theorem Signed.of_head {c : Char} {first second : List Char} (signed : Signed sign (c :: first)) :
    Signed sign (c :: second) := by
  cases signed with
  | plus => exact .plus _
  | minus => exact .minus _
  | unsigned stops => exact .unsigned stops

theorem exponent_of_stops (stops : Stops startsPower rest) : exponent rest = ([], false) := by
  cases rest with
  | nil => rfl
  | cons c more =>
      have other : (c == 'e' || c == 'E') = false := stops c rfl
      simp [exponent, other]

theorem exponent_of_signed (starts : startsPower e = true) (signed : Signed sign rest) :
    exponent (e :: (sign ++ rest)) =
      (e :: sign ++ rest.takeWhile Text.isAsciiDigit,
        !(rest.takeWhile Text.isAsciiDigit).isEmpty) := by
  have starts : (e == 'e' || e == 'E') = true := starts
  cases signed with
  | plus => simp [exponent, starts]
  | minus => simp [exponent, starts]
  | unsigned stops =>
      cases rest with
      | nil => simp [exponent, starts]
      | cons c more =>
          have other : (c == '+' || c == '-') = false := stops c rfl
          simp [exponent, starts, other]

/-- Whether no power of ten follows the letter for one. -/
def Unscaled (text : List Char) : Prop :=
  ∃ sign rest, text = sign ++ rest ∧ Signed sign rest ∧ Stops Text.isAsciiDigit rest

theorem Unscaled.of_stops (unsigned : Stops isSign text) (stops : Stops Text.isAsciiDigit text) :
    Unscaled text :=
  ⟨[], text, rfl, .unsigned unsigned, stops⟩

theorem Unscaled.sameAhead (unscaled : Unscaled behind) (same : SameAhead behind behind') :
    Unscaled behind' := by
  obtain ⟨sign, rest, rfl, signed, stops⟩ := unscaled
  have signless (same : SameAhead [] behind') : Unscaled behind' :=
    .of_stops (same.stops rfl (by simp [Stops])) (same.stops rfl (by simp [Stops]))
  cases signed with
  | unsigned unsigned => exact .of_stops (same.stops rfl unsigned) (same.stops rfl stops)
  | plus =>
      cases same with
      | pause _ space => exact signless (.pause (by simp) space)
      | cons c same => exact ⟨['+'], _, rfl, .plus _, same.stops rfl stops⟩
  | minus =>
      cases same with
      | pause _ space => exact signless (.pause (by simp) space)
      | cons c same => exact ⟨['-'], _, rfl, .minus _, same.stops rfl stops⟩

/-! ## The end of a number -/

/-- What digits are, by the text behind them. -/
def scanLong (digits rest : List Char) : Scan :=
  match rest with
  | 'L' :: after => found (.number (String.ofList digits) true) after
  | _ => found (.number (String.ofList digits) false) rest

theorem scanLong_of_stops (stops : Stops (· == 'L') rest) :
    scanLong digits rest = found (.number (String.ofList digits) false) rest := by
  unfold scanLong
  split
  next => exact absurd (stops 'L' rfl) (by decide)
  next => rfl

theorem glancesAt_scanLong (digits text : List Char) :
    GlancesAt (fun rest => token? (scanLong digits rest)) text := by
  by_cases short : Stops (· == 'L') text
  · have short' := GlancesAt.found (Token.number (String.ofList digits) false) text
    refine short'.of_stops rfl short fun rest stops => ?_
    rw [scanLong_of_stops stops, token?_found]
  · cases text with
    | nil => exact absurd (by simp [Stops]) short
    | cons c rest =>
        obtain rfl : c = 'L' := by simpa [Stops] using short
        exact (GlancesAt.found (Token.number (String.ofList digits) true) rest).after ['L'] id
          fun _ => rfl

/-- What the digits up to a possible power of ten are, by the text behind them. -/
def scanScaled (dialect : Dialect) (mantissa text : List Char) : Scan :=
  let (scale, complete) := exponent text
  let digits := if complete then mantissa ++ scale else mantissa
  let rest := if complete then text.drop scale.length else text
  let letters :=
    if dialect = .mySql && scale.isEmpty then rest.takeWhile dialect.continuesName else []
  if letters.isEmpty then scanLong digits rest
  else found (.word (.plain (digits ++ letters))) (rest.drop letters.length)

variable {dialect : Dialect} {mantissa : List Char}

theorem scanScaled_of_digits (starts : startsPower e = true) (signed : Signed sign (digits ++ rest))
    (some : digits ≠ []) (all : ∀ c ∈ digits, Text.isAsciiDigit c = true)
    (stops : Stops Text.isAsciiDigit rest) :
    scanScaled dialect mantissa (e :: (sign ++ (digits ++ rest))) =
      scanLong (mantissa ++ (e :: sign ++ digits)) rest := by
  have power : exponent (e :: (sign ++ (digits ++ rest))) = (e :: sign ++ digits, true) := by
    rw [exponent_of_signed starts signed, takeWhile_append_of_stops all stops]
    simp [some]
  have left : (e :: (sign ++ (digits ++ rest))).drop (e :: sign ++ digits).length = rest := by
    rw [← List.append_assoc, ← List.cons_append, List.drop_left']
    rfl
  unfold scanScaled
  simp only [power, left, if_true]
  simp

theorem scanScaled_of_unscaled (starts : startsPower e = true) (unscaled : Unscaled rest) :
    scanScaled dialect mantissa (e :: rest) =
      found (.number (String.ofList mantissa) false) (e :: rest) := by
  obtain ⟨sign, rest, rfl, signed, stops⟩ := unscaled
  have power : exponent (e :: (sign ++ rest)) = (e :: sign, false) := by
    rw [exponent_of_signed starts signed, takeWhile_of_stops stops]
    simp
  have short : Stops (· == 'L') (e :: (sign ++ rest)) := by
    rintro _ ⟨⟩
    rw [beq_eq_false_iff_ne]
    rintro rfl
    cases starts
  unfold scanScaled
  simp only [power]
  simp [scanLong_of_stops short]

theorem scanScaled_of_stops (stops : Stops startsPower rest)
    (nameless : dialect = .mySql → Stops dialect.continuesName rest) :
    scanScaled dialect mantissa rest = scanLong mantissa rest := by
  unfold scanScaled
  simp only [exponent_of_stops stops]
  by_cases mySql : dialect = .mySql
  · simp [mySql, takeWhile_of_stops (mySql ▸ nameless mySql)]
  · simp [mySql]

/-- In one of the dialects, a letter after digits makes them a word. -/
theorem scanScaled_of_letter {c : Char} (plain : startsPower c = false)
    (continues : Dialect.mySql.continuesName c = true) (rest : List Char) :
    scanScaled .mySql mantissa (c :: rest) = scanWord .mySql (mantissa ++ [c]) rest := by
  have stops : Stops startsPower (c :: rest) := by
    rintro _ ⟨⟩
    exact plain
  unfold scanScaled scanWord
  simp only [exponent_of_stops stops]
  simp [continues]

theorem continuesName_of_startsPower {c : Char} (dialect : Dialect) (starts : startsPower c = true) :
    dialect.continuesName c = true := by
  have power : c = 'e' ∨ c = 'E' := by simpa [startsPower] using starts
  rcases power with rfl | rfl <;> cases dialect <;> decide

theorem glancesAt_scanScaled_of_stops (dialect : Dialect) (mantissa : List Char)
    (stops : Stops startsPower text) :
    GlancesAt (fun rest => token? (scanScaled dialect mantissa rest)) text := by
  have long := glancesAt_scanLong mantissa text
  by_cases mySql : dialect = .mySql
  · subst mySql
    by_cases nameless : Stops Dialect.mySql.continuesName text
    · refine long.of_stops (continuesName_space .mySql) nameless fun rest nameless => ?_
      have stops : Stops startsPower rest := fun c first => by
        rw [← Bool.not_eq_true]
        intro starts
        have continues := continuesName_of_startsPower .mySql starts
        rw [nameless c first] at continues
        cases continues
      rw [scanScaled_of_stops stops fun _ => nameless]
    · cases text with
      | nil => exact absurd (by simp [Stops]) nameless
      | cons c rest =>
          have continues : Dialect.mySql.continuesName c = true := by simpa [Stops] using nameless
          refine (glancesAt_scanWord .mySql (mantissa ++ [c]) rest).after [c] id fun rest => ?_
          rw [List.singleton_append, scanScaled_of_letter (stops c rfl) continues]
          exact Option.map_id'.symm
  · refine long.of_stops rfl stops fun rest stops => ?_
    rw [scanScaled_of_stops stops fun same => absurd same mySql]

theorem glancesAt_scanScaled (dialect : Dialect) (mantissa text : List Char) :
    GlancesAt (fun rest => token? (scanScaled dialect mantissa rest)) text := by
  by_cases stops : Stops startsPower text
  · exact glancesAt_scanScaled_of_stops dialect mantissa stops
  cases text with
  | nil => exact absurd (by simp [Stops]) stops
  | cons e rest =>
      have starts : startsPower e = true := by simpa [Stops] using stops
      obtain ⟨sign, rest, rfl, signed⟩ := exists_signed rest
      obtain ⟨digits, rest, rfl, all, ends⟩ := exists_stops Text.isAsciiDigit rest
      cases digits with
      | nil =>
          -- No digit follows, so the letter is left, and nothing is taken.
          have unscaled : Unscaled (sign ++ ([] ++ rest)) := ⟨sign, rest, rfl, signed, ends⟩
          intro token behind found
          simp only [scanScaled_of_unscaled starts unscaled, token?_found] at found
          cases found
          refine ⟨[], rfl, fun behind' same => ?_⟩
          cases same with
          | pause _ space =>
              have short : scanScaled dialect mantissa behind' = scanLong mantissa behind' :=
                scanScaled_of_stops (.of_space space rfl)
                  fun _ => .of_space space (continuesName_space dialect)
              simp only [List.nil_append, short, scanLong_of_stops (.of_space space rfl), token?_found]
          | cons _ same =>
              simp only [List.nil_append, scanScaled_of_unscaled starts (unscaled.sameAhead same),
                token?_found]
      | cons d digits =>
          have long := glancesAt_scanLong (mantissa ++ (e :: sign ++ (d :: digits))) rest
          have scaled : GlancesAt (fun rest => token? (scanScaled dialect mantissa
              (e :: (sign ++ (d :: digits ++ rest))))) rest :=
            long.of_stops rfl ends fun rest ends => by
              rw [scanScaled_of_digits starts signed.of_head (List.cons_ne_nil d digits) all ends]
          have whole := @GlancesAt.after _ _ (fun rest => token? (scanScaled dialect mantissa rest)) _ _
            (e :: (sign ++ (d :: digits))) id scaled fun rest => by
              rw [List.cons_append, List.append_assoc]
              exact Option.map_id'.symm
          rwa [List.cons_append, List.append_assoc] at whole

/-! ## Numbers -/

/--
The parts of a text that starts with a number: whole digits, perhaps a point, the digits of a
fraction if there is one, and the text behind them.
-/
structure Parts (whole point fraction rest : List Char) : Prop where
  digits : ∀ c ∈ whole, Text.isAsciiDigit c = true
  pointed : point = [] ∧ fraction = [] ∨ point = ['.']
  decimals : ∀ c ∈ fraction, Text.isAsciiDigit c = true
  /-- No further digit follows, and no point unless there is one. -/
  stops : Stops (fun c => Text.isAsciiDigit c || (point.isEmpty && c == '.')) rest

variable {whole point fraction : List Char}

theorem exists_parts (text : List Char) : ∃ whole point fraction rest,
    text = whole ++ (point ++ (fraction ++ rest)) ∧ Parts whole point fraction rest := by
  obtain ⟨whole, more, rfl, all, stops⟩ := exists_stops Text.isAsciiDigit text
  by_cases pointed : ∃ after, more = '.' :: after
  · obtain ⟨after, rfl⟩ := pointed
    obtain ⟨fraction, rest, rfl, digits, stops⟩ := exists_stops Text.isAsciiDigit after
    exact ⟨whole, ['.'], fraction, rest, rfl, all, .inr rfl, digits, by simpa using stops⟩
  · refine ⟨whole, [], [], more, rfl, all, .inl ⟨rfl, rfl⟩, List.forall_mem_nil _, fun c first => ?_⟩
    have noPoint : c ≠ '.' := by
      rintro rfl
      exact pointed (List.head?_eq_some_iff.1 first)
    simp [stops c first, noPoint]

/-- A hexadecimal literal, which is no number. -/
theorem scanNumber_hex (digits : List Char) :
    scanNumber dialect ('0' :: 'x' :: digits) =
      found (.quoted .hex (String.ofList (digits.takeWhile Text.isHexDigit)))
        (digits.drop (digits.takeWhile Text.isHexDigit).length) := by
  have zero : Text.isAsciiDigit '0' = true := by decide
  have letter : Text.isAsciiDigit 'x' = false := by decide
  unfold scanNumber
  simp [zero, letter]

theorem Parts.scanNumber_eq (parts : Parts whole point fraction rest)
    (decimal : ¬ ∃ more, whole = ['0'] ∧ point ++ (fraction ++ rest) = 'x' :: more) :
    scanNumber dialect (whole ++ (point ++ (fraction ++ rest))) =
      if whole ++ point ++ fraction = ['.'] then mark .period rest
      else scanScaled dialect (whole ++ point ++ fraction) rest := by
  have digitless : Stops Text.isAsciiDigit rest := parts.stops.left
  have ends : Stops Text.isAsciiDigit (point ++ (fraction ++ rest)) := by
    rcases parts.pointed with ⟨rfl, rfl⟩ | rfl
    · exact digitless
    · rintro _ ⟨⟩
      decide
  unfold scanNumber
  extract_lets taken afterWhole sign afterPoint decimals mantissa afterMantissa
  have wholeTaken : taken = whole := takeWhile_append_of_stops parts.digits ends
  have wholeLeft : afterWhole = point ++ (fraction ++ rest) := by
    simp only [afterWhole, wholeTaken, List.drop_left]
  have pointTaken : sign = point := by
    simp only [sign, wholeLeft]
    rcases parts.pointed with ⟨rfl, rfl⟩ | rfl
    · cases rest with
      | nil => rfl
      | cons c more =>
          have noPoint : (c == '.') = false := by
            simpa using parts.stops.right c rfl
          simp [noPoint]
    · rfl
  have pointLeft : afterPoint = fraction ++ rest := by
    simp only [afterPoint, wholeLeft, pointTaken, List.drop_left]
  have fractionTaken : decimals = fraction := by
    simp only [decimals, pointTaken, pointLeft]
    rcases parts.pointed with ⟨rfl, rfl⟩ | rfl
    · rfl
    · exact takeWhile_append_of_stops parts.decimals digitless
  have fractionLeft : afterMantissa = rest := by
    simp only [afterMantissa, pointLeft, fractionTaken, List.drop_left]
  have together : mantissa = whole ++ point ++ fraction := by
    simp only [mantissa, wholeTaken, pointTaken, fractionTaken]
  clear_value taken afterWhole sign afterPoint decimals mantissa afterMantissa
  subst wholeTaken wholeLeft pointTaken pointLeft fractionTaken fractionLeft together
  split
  next more isLetter => exact absurd ⟨more, rfl, isLetter⟩ decimal
  next =>
    split
    next alone => rw [if_pos (by simpa using alone)]
    next more =>
      rw [if_neg (by simpa using more)]
      rfl

/-- The part of a text that is a number, up to a possible power of ten, is not empty. -/
theorem Parts.mantissa_ne_nil {c : Char} (parts : Parts whole point fraction rest)
    (starts : (Text.isAsciiDigit c || c == '.') = true)
    (split : c :: text = whole ++ (point ++ (fraction ++ rest))) : whole ++ point ++ fraction ≠ [] := by
  intro none
  obtain ⟨rfl, rfl, rfl⟩ : whole = [] ∧ point = [] ∧ fraction = [] := by simpa using none
  have first : c ∈ rest.head? := by
    rw [← show c :: text = rest from split]
    rfl
  have ends : (Text.isAsciiDigit c || c == '.') = false := parts.stops c first
  rw [starts] at ends
  cases ends

/-- A number is scanned up to a character that is no part of it. -/
theorem glancesAt_scanNumber (dialect : Dialect) {c : Char}
    (starts : (Text.isAsciiDigit c || c == '.') = true) (text : List Char) :
    GlancesAt (fun rest => token? (scanNumber dialect (c :: rest))) text := by
  by_cases hex : ∃ digits, c :: text = '0' :: 'x' :: digits
  · obtain ⟨digits, same⟩ := hex
    cases same
    have spaced : Text.isHexDigit ' ' = false := by decide
    refine (GlancesAt.span spaced (fun value => Token.quoted .hex (String.ofList value))
      digits).after ['x'] id fun rest => ?_
    rw [List.singleton_append, scanNumber_hex, token?_found]
    rfl
  · obtain ⟨whole, point, fraction, rest, split, parts⟩ := exists_parts (c :: text)
    obtain ⟨d, mantissa, together⟩ := List.exists_cons_of_ne_nil (parts.mantissa_ne_nil starts split)
    have regroup (rest : List Char) :
        whole ++ (point ++ (fraction ++ rest)) = d :: (mantissa ++ rest) := by
      rw [← List.cons_append, ← together, List.append_assoc, List.append_assoc]
    rw [regroup] at split
    cases split
    have isPart : Stops (fun c => decide (whole = ['0'] ∧ point = []) && c == 'x') rest := by
      intro first isFirst
      rw [Bool.and_eq_false_iff, decide_eq_false_iff_not, beq_eq_false_iff_ne, ← not_and_or]
      rintro ⟨⟨rfl, rfl⟩, rfl⟩
      obtain ⟨more, rfl⟩ := List.head?_eq_some_iff.1 isFirst
      rcases parts.pointed with ⟨-, rfl⟩ | pointed
      · exact hex ⟨more, (regroup ('x' :: more)).symm⟩
      · cases pointed
    have decimal {rest : List Char}
        (isPart : Stops (fun c => decide (whole = ['0'] ∧ point = []) && c == 'x') rest) :
        ¬ ∃ more, whole = ['0'] ∧ point ++ (fraction ++ rest) = 'x' :: more := by
      rintro ⟨more, isZero, isLetter⟩
      rcases parts.pointed with ⟨rfl, rfl⟩ | rfl
      · obtain rfl : rest = 'x' :: more := isLetter
        simpa [isZero] using isPart 'x' rfl
      · cases isLetter
    have next : GlancesAt (fun rest => token? (if whole ++ point ++ fraction = ['.'] then
        mark .period rest else scanScaled dialect (whole ++ point ++ fraction) rest)) rest := by
      split
      · exact .found _ _
      · exact glancesAt_scanScaled dialect _ rest
    have number : GlancesAt
        (fun rest => token? (scanNumber dialect (whole ++ (point ++ (fraction ++ rest))))) rest :=
      next.of_stops (by simp; decide) (parts.stops.or isPart) fun rest stops => by
        rw [Parts.scanNumber_eq { parts with stops := stops.left } (decimal stops.right)]
    refine number.after mantissa id fun rest => ?_
    rw [regroup]
    exact Option.map_id'.symm

end Querent.Sql.Lexer

import Querent.Proofs.Decimal.Digits
import Querent.Proofs.Sql.Plain.Pieces

/-!
# How plain tokens are read

Words, numbers, texts in quotes and symbols, and what may follow them so that they are read from
their own wording.
-/

namespace Querent.Sql.Plain

/-- The characters that may follow a word, a number or a text in a canonical text. -/
def breaks : List Char :=
  [' ', ',', '(', ')', ';']

/-- Whether a text is empty or starts with one of some characters. -/
def StartsWith (marks : List Char) (text : List Char) : Prop :=
  ∀ c ∈ text.head?, c ∈ marks

/-- Whether a text may follow a word, a number or a text in quotes. -/
abbrev Broken (text : List Char) : Prop :=
  StartsWith breaks text

@[simp]
theorem startsWith_cons {marks : List Char} {c : Char} {rest : List Char} :
    StartsWith marks (c :: rest) ↔ c ∈ marks := by
  simp [StartsWith]

/-! ## Words -/

/-- Whether a character may stand in a plain word. -/
def isWordChar (c : Char) : Bool :=
  c.isAlpha || Text.isAsciiDigit c || c == '_'

/-- Whether a character may start a plain word. -/
def startsWord (c : Char) : Bool :=
  c.isAlpha || c == '_'

/-- Whether letters make up a plain word. -/
def IsWord (letters : List Char) : Prop :=
  (∀ c ∈ letters.head?, startsWord c = true) ∧ letters ≠ [] ∧
    ∀ c ∈ letters, isWordChar c = true

instance (letters : List Char) : Decidable (IsWord letters) :=
  -- The letters are looked at, and not all characters there are.
  @instDecidableAnd _ _ (Option.decidableForallMem letters.head?)
    (@instDecidableAnd _ _ inferInstance (List.decidableBAll _ letters))

theorem bounds_of_isAlpha {c : Char} (letter : c.isAlpha = true) :
    65 ≤ c.toNat ∧ c.toNat < 128 := by
  have same : c.val.toNat = c.toNat := rfl
  have bounds (first last : Char) (from_first : first.val ≤ c.val) (to_last : c.val ≤ last.val)
      (large : 65 ≤ first.val.toNat) (small : last.val.toNat < 128) :
      65 ≤ c.toNat ∧ c.toNat < 128 := by
    rw [UInt32.le_iff_toNat_le] at from_first to_last
    omega
  rcases Bool.or_eq_true_iff.1 letter with upper | lower
  · have between := of_decide_eq_true upper
    exact bounds 'A' 'Z' between.1 between.2 (by decide) (by decide)
  · have between := Bool.and_eq_true_iff.1 lower
    exact bounds 'a' 'z' (of_decide_eq_true between.1) (of_decide_eq_true between.2) (by decide)
      (by decide)

theorem isLetter_of_isAlpha {c : Char} (letter : c.isAlpha = true) :
    Text.isLetter c = true := by
  rw [Text.isLetter_of_ascii (bounds_of_isAlpha letter).2]
  exact letter

theorem continuesName_of_isWordChar (dialect : Dialect) {c : Char} (plain : isWordChar c = true) :
    dialect.continuesName c = true := by
  unfold isWordChar at plain
  rw [Bool.or_eq_true, Bool.or_eq_true] at plain
  rcases plain with (letter | digit) | underscore
  · have known := isLetter_of_isAlpha letter
    cases dialect <;> simp [Dialect.continuesName, Dialect.startsName, letter, known]
  · cases dialect <;> simp [Dialect.continuesName, digit]
  · cases dialect <;> simp [Dialect.continuesName, Dialect.startsName, underscore]

/-- The characters that may follow a word, of which a name may have several with periods. -/
def wordBreaks : List Char :=
  '.' :: breaks

theorem mem_breaks {c : Char} :
    c ∈ breaks ↔ c = ' ' ∨ c = ',' ∨ c = '(' ∨ c = ')' ∨ c = ';' := by
  simp [breaks]

theorem mem_wordBreaks {c : Char} :
    c ∈ wordBreaks ↔ c = '.' ∨ c = ' ' ∨ c = ',' ∨ c = '(' ∨ c = ')' ∨ c = ';' := by
  simp [wordBreaks, mem_breaks]

theorem continuesName_of_mem_wordBreaks (dialect : Dialect) {c : Char} (mark : c ∈ wordBreaks) :
    dialect.continuesName c = false := by
  rcases mem_wordBreaks.1 mark with rfl | rfl | rfl | rfl | rfl | rfl
  all_goals cases dialect <;> decide

theorem takeWhile_continuesName (dialect : Dialect) {letters following : List Char}
    (plain : ∀ c ∈ letters, isWordChar c = true) (broken : StartsWith wordBreaks following) :
    (letters ++ following).takeWhile dialect.continuesName = letters := by
  rw [List.takeWhile_append_of_pos fun c member =>
    continuesName_of_isWordChar dialect (plain c member)]
  cases following with
  | nil => simp
  | cons c rest =>
      have stops := continuesName_of_mem_wordBreaks dialect (startsWith_cons.1 broken)
      simp [stops]

theorem scanWord_of_plain (dialect : Dialect) (c : Char) {letters following : List Char}
    (plain : ∀ c ∈ letters, isWordChar c = true) (broken : StartsWith wordBreaks following) :
    Lexer.scanWord dialect [c] (letters ++ following)
      = Lexer.found (.word (.plain (c :: letters))) following := by
  unfold Lexer.scanWord
  simp only [takeWhile_continuesName dialect plain broken, List.drop_left]
  rfl

/-- No quote stands behind the first letter of a word. -/
theorem not_quote_of_plain {letters following : List Char}
    (plain : ∀ c ∈ letters, isWordChar c = true) (broken : StartsWith wordBreaks following) :
    ∀ c ∈ (letters ++ following).head?, c ≠ '\'' ∧ c ≠ '"' := by
  intro c first
  cases letters with
  | nil =>
      rcases mem_wordBreaks.1 (broken c first) with rfl | rfl | rfl | rfl | rfl | rfl
      all_goals decide
  | cons letter rest =>
      cases first
      have word := plain c List.mem_cons_self
      constructor
      · rintro rfl
        revert word
        decide
      · rintro rfl
        revert word
        decide

theorem scanIntroduced_of_plain (dialect : Dialect) (c : Char)
    (forms : List (Char × QuotedForm)) (quotes : ∀ form ∈ forms, form.1 = '\'' ∨ form.1 = '"')
    {letters following : List Char} (plain : ∀ c ∈ letters, isWordChar c = true)
    (broken : StartsWith wordBreaks following) :
    Lexer.scanIntroduced dialect c forms (letters ++ following)
      = Lexer.found (.word (.plain (c :: letters))) following := by
  rw [← scanWord_of_plain dialect c plain broken]
  have unquoted := not_quote_of_plain plain broken
  unfold Lexer.scanIntroduced
  split
  next quote body same =>
    rw [same] at unquoted
    obtain ⟨notSingle, notDouble⟩ := unquoted quote rfl
    have absent : forms.lookup quote = none := by
      rw [List.lookup_eq_none_iff]
      intro form member
      rcases quotes form member with single | double
      · simpa [single] using notSingle
      · simpa [double] using notDouble
    rw [absent]
  next => rfl

theorem not_asciiDigit_of_startsWord {c : Char} (start : startsWord c = true) :
    Text.isAsciiDigit c = false := by
  rw [Bool.eq_false_iff]
  intro digit
  rcases Bool.or_eq_true_iff.1 start with letter | underscore
  · have above := (bounds_of_isAlpha letter).1
    have below := (Decimal.isAsciiDigit_iff.1 digit).2
    omega
  · rw [beq_iff_eq] at underscore
    subst underscore
    revert digit
    decide

theorem not_quote_of_isWordChar (dialect : Dialect) {c : Char} (word : isWordChar c = true) :
    dialect.opensQuotedName c = false ∧ (c == '"') = false ∧ (c == '.') = false := by
  have differs (mark : Char) (other : isWordChar mark = false) : (c == mark) = false := by
    rw [beq_eq_false_iff_ne]
    rintro rfl
    rw [word] at other
    cases other
  refine ⟨?_, differs '"' (by decide), differs '.' (by decide)⟩
  have double := differs '"' (by decide)
  have grave := differs '`' (by decide)
  have bracket := differs '[' (by decide)
  cases dialect <;> simp [Dialect.opensQuotedName, double, grave, bracket]

theorem scans_word (dialect : Dialect) {letters following : List Char} (word : IsWord letters)
    (broken : StartsWith wordBreaks following) :
    Scans dialect (.word (.plain letters)) following := by
  obtain ⟨starts, nonempty, plain⟩ := word
  cases letters with
  | nil => exact absurd rfl nonempty
  | cons c letters =>
      have start : startsWord c = true := starts c rfl
      have plainRest : ∀ c ∈ letters, isWordChar c = true := fun other member =>
        plain other (List.mem_cons_of_mem c member)
      have asWord := scanWord_of_plain dialect c plainRest broken
      have introduced := scanIntroduced_of_plain dialect c
      have unquoted := not_quote_of_plain plainRest broken
      refine ⟨c, letters, by simp [Token.text, Word.plain], ?_⟩
      unfold Lexer.scan
      split
      iterate 4 exact absurd start (by decide)
      iterate 4
        split
        · exact introduced _ (by decide) plainRest broken
        · exact asWord
      iterate 2 exact introduced _ (by decide) plainRest broken
      iterate 2
        split
        next body same =>
          rw [same] at unquoted
          exact absurd rfl (unquoted '\'' rfl).1
        next => exact asWord
      iterate 2 exact introduced _ (by decide) plainRest broken
      · exact absurd start (by decide)
      obtain ⟨notQuoted, notText, notPeriod⟩ :=
        not_quote_of_isWordChar dialect (plain c List.mem_cons_self)
      have notNumber := not_asciiDigit_of_startsWord start
      simp only [notQuoted, notText, notNumber, notPeriod, Bool.or_false, Bool.false_eq_true,
        if_false]
      split
      · exact asWord
      next notAlpha =>
        have underscore : c = '_' := by
          simpa [startsWord, notAlpha] using start
        subst underscore
        rw [← asWord]
        cases dialect <;> rfl

/-! ## Keywords -/

/-- The token that spells a keyword. -/
def keywordToken (word : Keyword) : Token :=
  .word (.plain word.toList)

@[simp]
theorem text_keywordToken (word : Keyword) : (keywordToken word).text = word := by
  simp [keywordToken, Word.plain, Token.text]

/-- What may follow a text may follow a word. -/
theorem startsWith_wordBreaks {following : List Char} (broken : Broken following) :
    StartsWith wordBreaks following := fun c first =>
  List.mem_cons_of_mem '.' (broken c first)

theorem scans_keyword (dialect : Dialect) {word : Keyword} {following : List Char}
    (isWord : IsWord word.toList) (broken : Broken following) :
    Scans dialect (keywordToken word) following :=
  scans_word dialect isWord (startsWith_wordBreaks broken)

/-! ## Numbers -/

/-- Whether letters make up a plain number: digits, with a period and more digits if it has one. -/
def IsNumber (letters : List Char) : Prop :=
  ∃ whole fraction, letters = whole ++ fraction ∧ whole ≠ [] ∧
    (∀ c ∈ whole, Text.isAsciiDigit c = true) ∧
    (fraction = [] ∨ ∃ digits, fraction = '.' :: digits ∧
      ∀ c ∈ digits, Text.isAsciiDigit c = true)

theorem isNumber_of_digits {letters : List Char} (nonempty : letters ≠ [])
    (digits : letters.all Text.isAsciiDigit = true) : IsNumber letters :=
  ⟨letters, [], by simp, nonempty, List.all_eq_true.1 digits, .inl rfl⟩

theorem takeWhile_digits {digits following : List Char}
    (plain : ∀ c ∈ digits, Text.isAsciiDigit c = true)
    (stops : ∀ c ∈ following.head?, Text.isAsciiDigit c = false) :
    (digits ++ following).takeWhile Text.isAsciiDigit = digits := by
  rw [List.takeWhile_append_of_pos plain]
  cases following with
  | nil => simp
  | cons c rest => simp [stops c rfl]

/-- What may follow a number takes no part in it. -/
theorem number_stops {c : Char} (mark : c ∈ breaks) :
    Text.isAsciiDigit c = false ∧ (c == '.') = false ∧ (c == 'e' || c == 'E') = false ∧
      c ≠ 'L' ∧ c ≠ 'x' := by
  rcases mem_breaks.1 mark with rfl | rfl | rfl | rfl | rfl
  all_goals decide

theorem exponent_of_broken {following : List Char} (broken : Broken following) :
    Lexer.exponent following = ([], false) := by
  cases following with
  | nil => rfl
  | cons c rest =>
      have plain := (number_stops (startsWith_cons.1 broken)).2.2.1
      simp [Lexer.exponent, plain]

theorem takeWhile_continuesName_of_broken (dialect : Dialect) {following : List Char}
    (broken : Broken following) : following.takeWhile dialect.continuesName = [] := by
  cases following with
  | nil => rfl
  | cons c rest =>
      have plain := continuesName_of_mem_wordBreaks dialect
        (List.mem_cons_of_mem '.' (startsWith_cons.1 broken))
      simp [plain]

/-- The period and the digits of a fraction are read up to what follows the number. -/
theorem fraction_of_plain {fraction following : List Char}
    (form : fraction = [] ∨ ∃ digits, fraction = '.' :: digits ∧
      ∀ c ∈ digits, Text.isAsciiDigit c = true) (broken : Broken following) :
    let point := ((fraction ++ following).take 1).filter (· == '.')
    let afterPoint := (fraction ++ following).drop point.length
    let digits := if point.isEmpty then [] else afterPoint.takeWhile Text.isAsciiDigit
    point ++ digits = fraction ∧ afterPoint.drop digits.length = following := by
  rcases form with rfl | ⟨digits, rfl, plain⟩
  · have noPoint : (following.take 1).filter (· == '.') = [] := by
      cases following with
      | nil => rfl
      | cons c rest =>
          have plain := (number_stops (startsWith_cons.1 broken)).2.1
          simp [plain]
    simp [noPoint]
  · have stops : ∀ c ∈ following.head?, Text.isAsciiDigit c = false := fun c first =>
      (number_stops (broken c first)).1
    simp [takeWhile_digits plain stops]

theorem scanNumber_of_plain (dialect : Dialect) {letters following : List Char}
    (number : IsNumber letters) (broken : Broken following) :
    Lexer.scanNumber dialect (letters ++ following)
      = Lexer.found (.number (String.ofList letters) false) following := by
  obtain ⟨whole, fraction, rfl, nonempty, digits, form⟩ := number
  have noSuffix : ∀ rest, following ≠ 'L' :: rest := by
    rintro rest rfl
    exact (number_stops (startsWith_cons.1 broken)).2.2.2.1 rfl
  have fractionStops : ∀ c ∈ (fraction ++ following).head?, Text.isAsciiDigit c = false ∧
      c ≠ 'x' := by
    rcases form with rfl | ⟨more, rfl, _⟩
    · exact fun c first => ⟨(number_stops (broken c first)).1,
        (number_stops (broken c first)).2.2.2.2⟩
    · rintro c ⟨⟩
      decide
  have noHex : ∀ rest, fraction ++ following ≠ 'x' :: rest := fun rest same =>
    (fractionStops 'x' (by rw [same]; rfl)).2 rfl
  have notPeriod : (whole ++ fraction == ['.']) = false := by
    rw [beq_eq_false_iff_ne]
    cases whole with
    | nil => contradiction
    | cons c rest =>
        intro same
        obtain ⟨rfl, _⟩ := List.cons.inj same
        exact absurd (digits '.' List.mem_cons_self) (by decide)
  have wholeIs : (whole ++ fraction ++ following).takeWhile Text.isAsciiDigit = whole := by
    rw [List.append_assoc]
    exact takeWhile_digits digits fun c first => (fractionStops c first).1
  obtain ⟨fractionIs, afterIs⟩ := fraction_of_plain form broken
  unfold Lexer.scanNumber
  dsimp only at fractionIs afterIs ⊢
  rw [wholeIs, List.append_assoc, List.drop_left]
  split
  next _ hex => exact absurd hex (noHex _)
  next =>
    rw [List.append_assoc, fractionIs, afterIs, notPeriod, exponent_of_broken broken]
    simp only [takeWhile_continuesName_of_broken dialect broken, Bool.false_eq_true, if_false,
      ite_self, List.isEmpty_nil, if_true]

theorem scans_number (dialect : Dialect) {letters following : List Char} (number : IsNumber letters)
    (broken : Broken following) :
    Scans dialect (.number (String.ofList letters) false) following := by
  have read := scanNumber_of_plain dialect number broken
  obtain ⟨whole, fraction, rfl, nonempty, digits, _⟩ := number
  cases whole with
  | nil => contradiction
  | cons c rest =>
      have digit : Text.isAsciiDigit c = true := digits c List.mem_cons_self
      refine ⟨c, rest ++ fraction, by simp [Token.text, numberText], ?_⟩
      rw [← read]
      unfold Lexer.scan
      split
      iterate 15 exact absurd digit (by decide)
      obtain ⟨notQuoted, notText, _⟩ :=
        @not_quote_of_isWordChar dialect c (by simp [isWordChar, digit])
      simp [notQuoted, notText, digit]

/-! ## Texts in quotes -/

/-- Whether the letters of a text in quotes stand for themselves, all on one line. -/
def IsText (letters : List Char) : Prop :=
  ∀ c ∈ letters, c ≠ '\'' ∧ c ≠ '\\' ∧ c ≠ '\n'

instance (letters : List Char) : Decidable (IsText letters) :=
  List.decidableBAll _ letters

theorem quotedText_of_plain (escapes : Bool) (quote : Char) {letters following : List Char}
    (plain : ∀ c ∈ letters, c ≠ quote ∧ (escapes = true → c ≠ '\\'))
    (stops : ∀ c ∈ following.head?, c ≠ quote) :
    Lexer.quotedText escapes quote (letters ++ quote :: following) = some (letters, following) := by
  induction letters with
  | nil =>
      cases following with
      | nil => simp [Lexer.quotedText]
      | cons c rest => simp [Lexer.quotedText, stops c rfl]
  | cons c letters ih =>
      obtain ⟨notQuote, notEscape⟩ := plain c List.mem_cons_self
      have later := ih fun other member => plain other (List.mem_cons_of_mem c member)
      rw [List.cons_append, Lexer.quotedText.eq_def]
      cases escapes with
      | false => simp [notQuote, later, Lexer.Read.cons]
      | true => simp [notQuote, notEscape rfl, later, Lexer.Read.cons]

theorem scans_text (dialect : Dialect) {letters following : List Char} (text : IsText letters)
    (broken : Broken following) :
    Scans dialect (.quoted .single (String.ofList letters)) following := by
  refine ⟨'\'', letters ++ ['\''], by simp [Token.text, QuotedForm.opening], ?_⟩
  have stops : ∀ c ∈ following.head?, c ≠ '\'' := by
    intro c first
    rcases mem_breaks.1 (broken c first) with rfl | rfl | rfl | rfl | rfl
    all_goals decide
  have read := quotedText_of_plain (decide (dialect = .mySql)) '\''
    (fun c member => ⟨(text c member).1, fun _ => (text c member).2.1⟩) stops
  have scanned : Lexer.scan dialect '\'' (letters ++ '\'' :: following)
      = Lexer.scanQuoted dialect .single '\'' ('\'' :: (letters ++ '\'' :: following))
        (letters ++ '\'' :: following) := rfl
  rw [List.append_assoc, List.singleton_append, scanned, Lexer.scanQuoted, read]

/-! ## Names in quotes -/

/-- Whether letters may stand in quotes as a name, all on one line. -/
def IsQuotable (dialect : Dialect) (quote : Char) (letters : List Char) : Prop :=
  dialect.opensQuotedName quote = true ∧ ∀ c ∈ letters, c ≠ closingQuote quote ∧ c ≠ '\n'

instance (dialect : Dialect) (quote : Char) (letters : List Char) :
    Decidable (IsQuotable dialect quote letters) :=
  @instDecidableAnd _ _ inferInstance (List.decidableBAll _ letters)

theorem mem_of_opensQuotedName {dialect : Dialect} {quote : Char}
    (opens : dialect.opensQuotedName quote = true) : quote = '"' ∨ quote = '`' ∨ quote = '[' := by
  cases dialect with
  | mySql => exact .inr (.inl (by simpa [Dialect.opensQuotedName] using opens))
  | sqlite => simpa [Dialect.opensQuotedName, or_assoc] using opens
  | _ =>
      have double : quote = '"' ∨ quote = '`' := by simpa [Dialect.opensQuotedName] using opens
      exact double.elim .inl fun grave => .inr (.inl grave)

theorem scans_quotedName {dialect : Dialect} {quote : Char} {letters following : List Char}
    (quotable : IsQuotable dialect quote letters) (broken : StartsWith wordBreaks following) :
    Scans dialect (.word (.quoted quote letters)) following := by
  obtain ⟨opens, plain⟩ := quotable
  have known := mem_of_opensQuotedName opens
  have stops : ∀ c ∈ following.head?, c ≠ closingQuote quote := by
    intro c first
    rcases known with rfl | rfl | rfl <;>
      rcases mem_wordBreaks.1 (broken c first) with rfl | rfl | rfl | rfl | rfl | rfl <;> decide
  have read := quotedText_of_plain false (closingQuote quote)
    (fun c member => ⟨(plain c member).1, by simp⟩) stops
  refine ⟨quote, letters ++ [closingQuote quote], by simp [Token.text, Word.quoted], ?_⟩
  have scanned : Lexer.scan dialect quote (letters ++ closingQuote quote :: following)
      = Lexer.scanQuotedName quote (quote :: (letters ++ closingQuote quote :: following))
        (letters ++ closingQuote quote :: following) := by
    rcases known with rfl | rfl | rfl <;> exact if_pos opens
  rw [List.append_assoc, List.singleton_append, scanned, Lexer.scanQuotedName, Lexer.quotedName,
    read]

/-! ## Symbols -/

@[simp]
theorem text_symbol (mark : Symbol) : (Token.symbol mark).text = mark.text := rfl

/-- The symbols that are read from their own wording before a blank. -/
theorem scans_symbol (dialect : Dialect) {symbol : Symbol} {rest : List Char}
    (plain : symbol ∈ [Symbol.equal, .notEqual, .less, .lessEqual, .greater, .greaterEqual, .plus,
      .minus, .times, .divide, .modulo, .concat, .pipe, .caret, .ampersand, .spaceship, .tilde,
      .tildeStar, .notTilde, .notTildeStar]) :
    Scans dialect (.symbol symbol) (' ' :: rest) := by
  simp only [List.mem_cons, List.not_mem_nil, or_false] at plain
  rcases plain with rfl | rfl | rfl | rfl | rfl | rfl | rfl | rfl | rfl | rfl | rfl | rfl | rfl |
    rfl | rfl | rfl | rfl | rfl | rfl | rfl
  all_goals
    refine ⟨_, _, rfl, ?_⟩
    cases dialect <;> rfl

/-- The symbols that are read from their own wording everywhere. -/
theorem scans_mark (dialect : Dialect) {symbol : Symbol} (following : List Char)
    (plain : symbol ∈ [Symbol.openParen, .closeParen, .comma, .semicolon, .plus, .times,
      .doubleExclamation, .squareRoot, .cubeRoot]) :
    Scans dialect (.symbol symbol) following := by
  simp only [List.mem_cons, List.not_mem_nil, or_false] at plain
  rcases plain with rfl | rfl | rfl | rfl | rfl | rfl | rfl | rfl | rfl
  all_goals
    refine ⟨_, _, rfl, ?_⟩
    cases dialect <;> rfl

theorem scans_period (dialect : Dialect) {following : List Char}
    (noDigit : ∀ c ∈ following.head?, Text.isAsciiDigit c = false) :
    Scans dialect (.symbol .period) following := by
  refine ⟨'.', [], rfl, ?_⟩
  have fraction : following.takeWhile Text.isAsciiDigit = [] := by
    simpa using @takeWhile_digits [] following (by simp) noDigit
  have scanned : Lexer.scan dialect '.' ([] ++ following)
      = Lexer.scanNumber dialect ('.' :: following) := by
    cases dialect <;> rfl
  have notDigit : Text.isAsciiDigit '.' = false := by
    decide
  rw [scanned]
  simp [Lexer.scanNumber, fraction, notDigit, Lexer.mark]

theorem scans_minus (dialect : Dialect) {following : List Char}
    (noSign : ∀ c ∈ following.head?, c ≠ '-' ∧ c ≠ '>') :
    Scans dialect (.symbol .minus) following := by
  refine ⟨'-', [], rfl, ?_⟩
  have scanned : Lexer.scan dialect '-' ([] ++ following)
      = Lexer.scanSymbol dialect '-' following := by
    cases dialect <;> rfl
  rw [scanned]
  cases following with
  | nil => rfl
  | cons c rest =>
      obtain ⟨notMinus, notGreater⟩ := noSign c rfl
      unfold Lexer.scanSymbol
      split <;> simp_all [Lexer.mark]

theorem scans_tilde (dialect : Dialect) {following : List Char}
    (noStar : ∀ c ∈ following.head?, c ≠ '*') : Scans dialect (.symbol .tilde) following := by
  refine ⟨'~', [], rfl, ?_⟩
  have scanned : Lexer.scan dialect '~' ([] ++ following)
      = Lexer.scanSymbol dialect '~' following := by
    cases dialect <;> rfl
  rw [scanned]
  cases following with
  | nil => rfl
  | cons c rest =>
      have notStar := noStar c rfl
      unfold Lexer.scanSymbol
      split <;> simp_all [Lexer.mark]

theorem scans_atSign {following : List Char}
    (noSign : ∀ c ∈ following.head?, c ≠ '@' ∧ c ≠ '>' ∧ c ≠ '?') :
    Scans .postgres (.symbol .atSign) following := by
  refine ⟨'@', [], rfl, ?_⟩
  have notStarting : Dialect.postgres.startsName '@' = false := by decide
  have scanned : Lexer.scan .postgres '@' ([] ++ following)
      = Lexer.scanSymbol .postgres '@' following := rfl
  rw [scanned]
  cases following with
  | nil => rfl
  | cons c rest =>
      obtain ⟨notAt, notGreater, notQuestion⟩ := noSign c rfl
      unfold Lexer.scanSymbol
      split <;> simp_all [Lexer.mark, Lexer.scanNameSign]
      split <;> rfl

end Querent.Sql.Plain

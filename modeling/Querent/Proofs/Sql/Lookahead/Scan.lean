import Querent.Proofs.Sql.Lookahead.Numbers

/-!
# What stands behind any token

A token that is scanned in front of a text is scanned in front of every other text that looks the
same.  What is skipped instead of a token is a blank or a comment.
-/

namespace Querent.Sql.Lexer

variable (dialect : Dialect) {behind behind' : List Char}

/-! ## Symbols -/

/-- A text that looks the same ends, starts with a space, or starts with the same character. -/
theorem SameAhead.cases_head (same : SameAhead behind behind') :
    (behind' = [] ∨ ∃ more, behind' = ' ' :: more) ∨
      ∃ c first second, behind = c :: first ∧ behind' = c :: second := by
  cases same with
  | pause _ space =>
      cases behind' with
      | nil => exact .inl (.inl rfl)
      | cons c more =>
          obtain rfl := space c rfl
          exact .inl (.inr ⟨more, rfl⟩)
  | cons c same => exact .inr ⟨c, _, _, rfl, rfl⟩

theorem scanSymbol_sharp {rest : List Char} (stops : Stops (fun c => c == '-' || c == '>') rest) :
    scanSymbol dialect '#' rest = scanNameSign dialect '#' ['#'] rest .sharp := by
  cases rest with
  | nil => rfl
  | cons c rest =>
      have other : ¬ c = '-' ∧ ¬ c = '>' := by simpa using stops c rfl
      simp [scanSymbol, other]

theorem scanSymbol_at {rest : List Char}
    (stops : Stops (fun c => c == '>' || c == '?' || c == '@') rest) :
    scanSymbol dialect '@' rest = scanNameSign dialect '@' ['@'] rest .atSign := by
  cases rest with
  | nil => rfl
  | cons c rest =>
      have other : (¬ c = '>' ∧ ¬ c = '?') ∧ ¬ c = '@' := by simpa using stops c rfl
      simp [scanSymbol, other]

theorem glancesAt_scanSymbol_sharp {text : List Char}
    (stops : Stops (fun c => c == '-' || c == '>') text) :
    GlancesAt (fun rest => token? (scanSymbol dialect '#' rest)) text :=
  (glancesAt_scanNameSign dialect '#' ['#'] .sharp text).of_stops rfl stops fun rest stops => by
    rw [scanSymbol_sharp dialect stops]

theorem glancesAt_scanSymbol_at {text : List Char}
    (stops : Stops (fun c => c == '>' || c == '?' || c == '@') text) :
    GlancesAt (fun rest => token? (scanSymbol dialect '@' rest)) text :=
  (glancesAt_scanNameSign dialect '@' ['@'] .atSign text).of_stops rfl stops fun rest stops => by
    rw [scanSymbol_at dialect stops]

theorem glancesAt_scanSymbol_doubleAt (after : List Char) :
    GlancesAt (fun rest => token? (scanSymbol dialect '@' rest)) ('@' :: after) :=
  (glancesAt_scanNameSign dialect '@' ['@', '@'] .doubleAt after).after ['@'] id fun _ =>
    Option.map_id'.symm

/-- The characters that a symbol or a placeholder starts with, apart from dollar signs. -/
def symbolStarts : List Char :=
  ['(', ')', ',', '-', '/', '+', '*', '%', '|', '=', '!', '<', '>', ':', ';', '\\', '[', ']', '&',
    '^', '\x7b', '\x7d', '~', '#', '@', '?']

/-- What a character is that starts no symbol. -/
def scanPlain (dialect : Dialect) (c : Char) (rest : List Char) : Scan :=
  if dialect.startsName c then scanWord dialect [c] rest
  else if c == '$' then scanDollar rest
  else if Text.isBlank c then .ok (none, rest)
  else found (.stray c) rest

theorem scanSymbol_of_plain {c : Char} (plain : c ∉ symbolStarts) (rest : List Char) :
    scanSymbol dialect c rest = scanPlain dialect c rest := by
  unfold scanSymbol
  split
  all_goals first
    | exact absurd (by decide) plain
    | rfl

theorem glancesAt_scanPlain (c : Char) (text : List Char) :
    GlancesAt (fun rest => token? (scanPlain dialect c rest)) text := by
  unfold scanPlain
  split
  · exact glancesAt_scanWord dialect [c] text
  split
  · exact glancesAt_scanDollar text
  split
  · exact glancesAt_of_eq_none rfl
  · exact .found _ text

theorem glancesAt_scanSymbol (c : Char) (text : List Char) :
    GlancesAt (fun rest => token? (scanSymbol dialect c rest)) text := by
  by_cases plain : c ∉ symbolStarts
  · exact (glancesAt_scanPlain dialect c text).congr fun rest => by
      rw [scanSymbol_of_plain dialect plain]
  intro token behind original
  have found : token? (scanSymbol dialect c text) = some (token, behind) := original
  unfold scanSymbol at found
  split at found
  all_goals first
    | -- No token is read.
      cases found
      done
    | -- No character is looked at, or all that are are taken.
      cases found
      first
        | exact ⟨[], rfl, fun _ _ => rfl⟩
        | exact ⟨[_], rfl, fun _ _ => rfl⟩
        | exact ⟨[_, _], rfl, fun _ _ => rfl⟩
    | -- A longer symbol would go on with a character with which no text goes on.
      cases found
      clear original plain
      first
        | refine ⟨[], rfl, fun behind' same => ?_⟩
          rcases same.cases_head with (rfl | ⟨more, rfl⟩) | ⟨d, first, second, rfl, rfl⟩
          · rfl
          · rfl
          · simp_all [scanSymbol]
        | refine ⟨[_], rfl, fun behind' same => ?_⟩
          rcases same.cases_head with (rfl | ⟨more, rfl⟩) | ⟨d, first, second, rfl, rfl⟩
          · rfl
          · rfl
          · simp_all [scanSymbol]
    | skip
  next => split at found <;> cases found
  next after _ =>
    split at found
    next divides =>
      cases found
      refine ⟨['/'], rfl, fun behind' _ => ?_⟩
      simp only [List.singleton_append, scanSymbol, if_pos divides, token?_mark]
    next divides =>
      cases found
      refine ⟨[], rfl, fun behind' same => ?_⟩
      rcases same.cases_head with (rfl | ⟨more, rfl⟩) | ⟨_, first, second, split, rfl⟩
      · rfl
      · rfl
      · cases split
        simp only [List.nil_append, scanSymbol, if_neg divides, token?_mark]
  next notMinus _ notGreater =>
    have alone := (stops_of_ne notMinus).or (stops_of_ne notGreater)
    exact glancesAt_scanSymbol_sharp dialect alone token behind original
  next after => exact glancesAt_scanSymbol_doubleAt dialect after token behind original
  next notGreater notQuestion notAt =>
    have alone := ((stops_of_ne notGreater).or (stops_of_ne notQuestion)).or (stops_of_ne notAt)
    exact glancesAt_scanSymbol_at dialect alone token behind original
  next =>
    exact GlancesAt.span (by decide : Text.isNumeric ' ' = false)
      (fun digits => Token.placeholder (String.ofList ('?' :: digits))) text token behind original
  next =>
    refine absurd ?_ plain
    simp only [symbolStarts, List.mem_cons, List.not_mem_nil, not_or]
    and_intros
    all_goals first
      | assumption
      | exact not_false

/-! ## All tokens -/

/-- The characters for which a text is not scanned as a symbol, a name, a number or a word alone. -/
def specialStarts : List Char :=
  [' ', '\t', '\n', '\r', 'b', 'B', 'r', 'R', 'n', 'N', 'e', 'E', 'x', 'X', '\'']

/-- What a character starts that is none of the special ones. -/
def scanCommon (dialect : Dialect) (c : Char) (rest : List Char) : Scan :=
  if dialect.opensQuotedName c then scanQuotedName c (c :: rest) rest
  else if c == '"' then scanQuoted dialect .double '"' (c :: rest) rest
  else if Text.isAsciiDigit c || c == '.' then scanNumber dialect (c :: rest)
  else if c.isAlpha then scanWord dialect [c] rest
  else scanSymbol dialect c rest

theorem scan_of_common {c : Char} (common : c ∉ specialStarts) (rest : List Char) :
    scan dialect c rest = scanCommon dialect c rest := by
  unfold scan
  split
  all_goals first
    | exact absurd (by decide) common
    | rfl

theorem glancesAt_scanCommon (c : Char) (text : List Char) :
    GlancesAt (fun rest => token? (scanCommon dialect c rest)) text := by
  unfold scanCommon
  split
  next opens =>
    have solid : (' ' == closingQuote c) = false := by
      rw [beq_eq_false_iff_ne]
      unfold closingQuote
      split
      · decide
      · rintro rfl
        cases dialect <;> cases opens
    exact glancesAt_scanQuotedName solid (c :: ·) text
  split
  · exact glancesAt_scanQuoted dialect .double rfl (c :: ·) text
  split
  next starts => exact glancesAt_scanNumber dialect starts text
  split
  · exact glancesAt_scanWord dialect [c] text
  · exact glancesAt_scanSymbol dialect c text

/-- A letter that starts escaped text only if a quote follows it. -/
theorem glancesAt_scan_escaped {c : Char} (letter : c = 'e' ∨ c = 'E') (text : List Char) :
    GlancesAt (fun rest => token? (scan dialect c rest)) text := by
  by_cases plain : Stops (· == '\'') text
  · refine (glancesAt_scanWord dialect [c] text).of_stops rfl plain fun rest stops => ?_
    have unquoted (body : List Char) : rest ≠ '\'' :: body := by
      rintro rfl
      cases stops '\'' rfl
    rcases letter with rfl | rfl <;> simp [scan]
  · cases text with
    | nil => exact absurd (by simp [Stops]) plain
    | cons d body =>
        obtain rfl : d = '\'' := by simpa [Stops] using plain
        refine (glancesAt_escapedText false body).after ['\'']
          (fun value => .quoted .escaped (String.ofList value)) fun rest => ?_
        rcases letter with rfl | rfl
        all_goals
          simp only [List.singleton_append, scan]
          cases escapedText false rest <;> rfl

theorem glancesAt_scan (c : Char) (text : List Char) :
    GlancesAt (fun rest => token? (scan dialect c rest)) text := by
  by_cases common : c ∉ specialStarts
  · exact (glancesAt_scanCommon dialect c text).congr fun rest => by rw [scan_of_common dialect common]
  have introduced (letter : Char) {forms : List (Char × QuotedForm)} (solid : forms.lookup ' ' = none)
      (scans : ∀ rest, scan dialect letter rest = scanIntroduced dialect letter forms rest) :
      GlancesAt (fun rest => token? (scan dialect letter rest)) text :=
    (glancesAt_scanIntroduced dialect letter forms solid text).congr fun rest => by rw [scans]
  have bytes (letter : Char) {forms : List (Char × QuotedForm)} (solid : forms.lookup ' ' = none)
      (scans : ∀ rest, scan dialect letter rest =
        if dialect = .generic then scanIntroduced dialect letter forms rest
        else scanWord dialect [letter] rest) :
      GlancesAt (fun rest => token? (scan dialect letter rest)) text := by
    by_cases generic : dialect = .generic
    · exact introduced letter solid fun rest => by rw [scans, if_pos generic]
    · refine (glancesAt_scanWord dialect [letter] text).congr fun rest => ?_
      rw [scans, if_neg generic]
  have special : c ∈ specialStarts := not_not.1 common
  simp only [specialStarts, List.mem_cons, List.not_mem_nil, or_false] at special
  rcases special with rfl | rfl | rfl | rfl | rfl | rfl | rfl | rfl | rfl | rfl | rfl | rfl | rfl |
    rfl | rfl
  iterate 4 exact glancesAt_of_eq_none rfl
  · exact bytes 'b' rfl fun _ => rfl
  · exact bytes 'B' rfl fun _ => rfl
  · exact bytes 'r' rfl fun _ => rfl
  · exact bytes 'R' rfl fun _ => rfl
  · exact introduced 'n' rfl fun _ => rfl
  · exact introduced 'N' rfl fun _ => rfl
  · exact glancesAt_scan_escaped dialect (.inl rfl) text
  · exact glancesAt_scan_escaped dialect (.inr rfl) text
  · exact introduced 'x' rfl fun _ => rfl
  · exact introduced 'X' rfl fun _ => rfl
  · exact glancesAt_scanQuoted dialect .single rfl ('\'' :: ·) text

/-! ## What is skipped -/

/-- What is skipped at the start of a text, and the text behind it. -/
inductive Skips : Char → List Char → List Char → Prop where
  | blank {c : Char} (blank : Text.isBlank c = true) (rest : List Char) : Skips c rest rest
  | line (after : List Char) : Skips '-' ('-' :: after) (afterLine after)
  | block {after behind : List Char} (closed : afterBlockComment 1 ' ' after = some behind) :
      Skips '/' ('*' :: after) behind

/-- Whether nothing is skipped: a token or a fault is found. -/
def Solid (scanned : Scan) : Prop :=
  ∀ behind, scanned ≠ .ok (none, behind)

theorem solid_found (token : Token) (rest : List Char) : Solid (found token rest) := by
  intro behind skipped
  cases skipped

theorem solid_error (fault : Fault) : Solid (.error fault) := by
  intro behind skipped
  cases skipped

theorem solid_scanWord (first rest : List Char) : Solid (scanWord dialect first rest) :=
  solid_found _ _

theorem solid_scanQuoted (form : QuotedForm) (quote : Char) (start rest : List Char) :
    Solid (scanQuoted dialect form quote start rest) := by
  unfold scanQuoted
  split
  · exact solid_found _ _
  · exact solid_error _

theorem solid_scanQuotedName (quote : Char) (start rest : List Char) :
    Solid (scanQuotedName quote start rest) := by
  unfold scanQuotedName
  split
  · exact solid_found _ _
  · exact solid_error _

theorem solid_scanNameSign (sign : Char) (first rest : List Char) (symbol : Symbol) :
    Solid (scanNameSign dialect sign first rest symbol) := by
  unfold scanNameSign
  split
  · exact solid_found _ _
  · exact solid_found _ _
  split
  · exact solid_scanWord dialect _ _
  · exact solid_found _ _

theorem solid_scanIntroduced (letter : Char) (forms : List (Char × QuotedForm)) (rest : List Char) :
    Solid (scanIntroduced dialect letter forms rest) := by
  unfold scanIntroduced
  split
  · split
    · exact solid_scanQuoted dialect _ _ _ _
    · exact solid_scanWord dialect _ _
  · exact solid_scanWord dialect _ _

theorem solid_scanDollar (rest : List Char) : Solid (scanDollar rest) := by
  unfold scanDollar
  split
  · split
    · exact solid_found _ _
    · exact solid_error _
  · extract_lets inTag letters tag
    split
    · split
      next body _ _ closing _ =>
        cases afterClosingTag tag letters closing with
        | ok after => exact solid_found _ _
        | error fault => exact solid_error _
      · exact solid_error _
    · exact solid_found _ _

theorem solid_scanNumber (text : List Char) : Solid (scanNumber dialect text) := by
  unfold scanNumber
  extract_lets whole afterWhole point afterPoint fraction mantissa afterMantissa
  clear_value mantissa afterMantissa fraction afterPoint point afterWhole whole
  split
  · exact solid_found _ _
  split
  · exact solid_found _ _
  split
  extract_lets digits rest letters
  clear_value digits rest letters
  split
  · split <;> exact solid_found _ _
  · exact solid_found _ _

theorem skips_of_scanSymbol {c : Char} {rest behind : List Char}
    (scanned : scanSymbol dialect c rest = .ok (none, behind)) : Skips c rest behind := by
  unfold scanSymbol at scanned
  split at scanned
  all_goals first
    | cases scanned
      done
    | skip
  next after =>
    cases scanned
    exact .line after
  next after =>
    split at scanned
    next closed =>
      cases scanned
      exact .block closed
    next => cases scanned
  next after => split at scanned <;> cases scanned
  iterate 3
    next => exact absurd scanned (solid_scanNameSign dialect _ _ _ _ _)
  next =>
    split at scanned
    · exact absurd scanned (solid_scanWord dialect _ _ _)
    split at scanned
    · exact absurd scanned (solid_scanDollar _ _)
    split at scanned
    next blank =>
      cases scanned
      exact .blank blank _
    next => cases scanned

/-- What is skipped is a blank or a comment. -/
theorem skips_of_scan {c : Char} {rest behind : List Char}
    (scanned : scan dialect c rest = .ok (none, behind)) : Skips c rest behind := by
  unfold scan at scanned
  split at scanned
  iterate 4
    next =>
      cases scanned
      exact .blank (by decide) _
  iterate 4
    next =>
      split at scanned
      · exact absurd scanned (solid_scanIntroduced dialect _ _ _ _)
      · exact absurd scanned (solid_scanWord dialect _ _ _)
  iterate 2
    next => exact absurd scanned (solid_scanIntroduced dialect _ _ _ _)
  iterate 2
    next =>
      split at scanned
      · split at scanned <;> cases scanned
      · exact absurd scanned (solid_scanWord dialect _ _ _)
  iterate 2
    next => exact absurd scanned (solid_scanIntroduced dialect _ _ _ _)
  next => exact absurd scanned (solid_scanQuoted dialect _ _ _ _ _)
  next =>
    split at scanned
    · exact absurd scanned (solid_scanQuotedName _ _ _ _)
    split at scanned
    · exact absurd scanned (solid_scanQuoted dialect _ _ _ _ _)
    split at scanned
    · exact absurd scanned (solid_scanNumber dialect _ _)
    split at scanned
    · exact absurd scanned (solid_scanWord dialect _ _ _)
    · exact skips_of_scanSymbol dialect scanned

end Querent.Sql.Lexer

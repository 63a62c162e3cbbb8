import Querent.Proofs.Sql.Plain.Operands

/-!
# Names and values

A name is read by itself, with more names behind it, or before an opening parenthesis.  What follows
the name decides which of these it is.
-/

namespace Querent.Sql.Plain

open Querent.Sql.Parser

/-! ## Writing names -/

section Writing

variable {dialect : Dialect} {name : Ident}

@[simp]
theorem ident_wordOf (name : Ident) : (wordOf name).ident = name := by
  obtain ⟨text, quote⟩ := name
  cases quote <;> simp [wordOf, Word.ident, Word.plain, Word.quoted]

theorem scans_name (isName : IsName dialect name) {following : List Char}
    (broken : StartsWith wordBreaks following) : Scans dialect (nameToken name) following := by
  obtain ⟨text, quote⟩ := name
  cases quote with
  | none => exact scans_word dialect isName broken
  | some quote => exact scans_quotedName isName broken

theorem doubleQuotes_of_plain {quote : Char} {letters : List Char}
    (plain : ∀ c ∈ letters, c ≠ quote) (previous : Char) (swallow : Bool) :
    doubleQuotes quote previous swallow letters = letters := by
  induction letters generalizing previous swallow with
  | nil => rfl
  | cons c rest ih =>
      rw [List.forall_mem_cons] at plain
      simp [doubleQuotes, plain.1, ih plain.2]

theorem text_nameToken (isName : IsName dialect name) :
    (nameToken name).text.toList = name.sql.toList := by
  obtain ⟨text, quote⟩ := name
  cases quote with
  | none => simp [nameToken, wordOf, Word.plain, Token.text, Ident.sql]
  | some quote =>
      obtain ⟨opens, plain⟩ := isName
      have letters : ∀ c ∈ text.toList, c ≠ closingQuote quote := fun c member => (plain c member).1
      rcases mem_of_opensQuotedName opens with rfl | rfl | rfl
      · have single (previous : Char) (swallow : Bool) :
            doubleQuotes '"' previous swallow text.toList = text.toList :=
          doubleQuotes_of_plain letters previous swallow
        simp [nameToken, wordOf, Word.quoted, Token.text, Ident.sql, quoteText, closingQuote,
          single]
      · have single (previous : Char) (swallow : Bool) :
            doubleQuotes '`' previous swallow text.toList = text.toList :=
          doubleQuotes_of_plain letters previous swallow
        simp [nameToken, wordOf, Word.quoted, Token.text, Ident.sql, quoteText, closingQuote,
          single]
      · simp [nameToken, wordOf, Word.quoted, Token.text, Ident.sql, closingQuote]

/-- A name starts with a letter, an underscore or a quote, and stands on one line. -/
theorem exists_text_nameToken (isName : IsName dialect name) :
    ∃ c rest, (nameToken name).text.toList = c :: rest ∧ Text.isAsciiDigit c = false ∧
      c ∉ ['>', '?', '*', '-', '@'] := by
  obtain ⟨text, quote⟩ := name
  cases quote with
  | none =>
      obtain ⟨starts, nonempty, _⟩ := isName
      cases letters : text.toList with
      | nil => exact absurd letters nonempty
      | cons c rest =>
          rw [letters] at starts
          have start : startsWord c = true := starts c rfl
          refine ⟨c, rest, ?_, not_asciiDigit_of_startsWord start, ?_⟩
          · simpa [nameToken, wordOf, Word.plain, Token.text] using letters
          · intro member
            simp only [List.mem_cons, List.not_mem_nil, or_false] at member
            rcases member with rfl | rfl | rfl | rfl | rfl <;> revert start <;> decide
  | some quote =>
      refine ⟨quote, text.toList ++ [closingQuote quote], ?_, ?_⟩
      · simp [nameToken, wordOf, Word.quoted, Token.text]
      · rcases mem_of_opensQuotedName isName.1 with rfl | rfl | rfl
        · exact ⟨by decide, by decide⟩
        · exact ⟨by decide, by decide⟩
        · exact ⟨by decide, by decide⟩

theorem oneLine_nameToken (isName : IsName dialect name) :
    '\n' ∉ (nameToken name).text.toList := by
  obtain ⟨text, quote⟩ := name
  cases quote with
  | none =>
      have letters : (nameToken ⟨text, none⟩).text.toList = text.toList := by
        simp [nameToken, wordOf, Word.plain, Token.text]
      rw [letters]
      exact fun member => absurd (isName.2.2 _ member) (by decide)
  | some quote =>
      obtain ⟨opens, plain⟩ := isName
      have letters : (nameToken ⟨text, some quote⟩).text.toList
          = quote :: (text.toList ++ [closingQuote quote]) := by
        simp [nameToken, wordOf, Word.quoted, Token.text]
      rw [letters, List.mem_cons, List.mem_append, List.mem_singleton]
      rintro (first | inside | last)
      · rcases mem_of_opensQuotedName opens with rfl | rfl | rfl <;> revert first <;> decide
      · exact (plain _ inside).2 rfl
      · rcases mem_of_opensQuotedName opens with rfl | rfl | rfl <;> revert last <;> decide

theorem clear_name (isName : IsName dialect name) (apart : Bool) :
    (Phrase.one apart (nameToken name)).Clear dialect :=
  .one (fun _ broken => scans_name isName (startsWith_wordBreaks broken)) (oneLine_nameToken isName)
    (isTame_word _)

theorem legible_name (isName : IsName dialect name) :
    (Phrase.one true (nameToken name)).Legible dialect :=
  ⟨clear_name isName true, Phrase.breaks_of_apart (by simp)⟩

end Writing

/-! ## Paths of names -/

/-- The phrase of some names with a period before each. -/
def path (names : List Ident) : Phrase :=
  .plain (names.flatMap fun name => [⟨false, .symbol .period⟩, ⟨false, nameToken name⟩])

theorem path_cons (name : Ident) (others : List Ident) :
    path (name :: others)
      = .one false (.symbol .period) ++ (.one false (nameToken name) ++ path others) := rfl

/-- The phrase of a qualified name. -/
def qualified (apart : Bool) (first : Ident) (others : List Ident) : Phrase :=
  .one apart (nameToken first) ++ path others

section Path

variable {dialect : Dialect} {first : Ident} {others : List Ident}

/-- What may stand behind a single name may stand behind a qualified one. -/
theorem clear_qualified_append {second : Phrase}
    (names : ∀ name ∈ first :: others, IsName dialect name) (apart : Bool)
    (single : ∀ name apart, IsName dialect name →
      (Phrase.one apart (nameToken name) ++ second).Clear dialect) :
    (qualified apart first others ++ second).Clear dialect := by
  induction others generalizing first apart with
  | nil =>
      rw [qualified, path, List.flatMap_nil, Phrase.append_nil]
      exact single first apart (names first List.mem_cons_self)
  | cons name others ih =>
      rw [List.forall_mem_cons] at names
      have behind := ih names.2 false
      obtain ⟨c, rest, letters, noDigit, _⟩ :=
        exists_text_nameToken (names.2 name List.mem_cons_self)
      have period : (Phrase.one false (.symbol .period) ++
          (qualified false name others ++ second)).Clear dialect := by
        refine .cons (fun following => scans_period dialect fun digit starts => ?_) (by decide)
          (by decide) behind
        rw [qualified, Phrase.text_append, Phrase.text_append, Phrase.text_one, letters] at starts
        cases starts
        exact noDigit
      rw [qualified, path_cons, Phrase.append_assoc, Phrase.append_assoc, ← qualified]
      exact .cons (fun following => scans_name names.1 (startsWith_cons.2 (by decide)))
        (oneLine_nameToken names.1) (isTame_word _) period

theorem clear_qualified (names : ∀ name ∈ first :: others, IsName dialect name) (apart : Bool) :
    (qualified apart first others).Clear dialect := by
  rw [← Phrase.append_nil (qualified apart first others)]
  refine clear_qualified_append names apart fun name apart isName => ?_
  rw [Phrase.append_nil]
  exact clear_name isName apart

theorem text_qualified (names : ∀ name ∈ first :: others, IsName dialect name) (apart : Bool) :
    (qualified apart first others).text
      = (if apart then [' '] else []) ++ (QualifiedName.sql (first :: others)).toList := by
  induction others generalizing first apart with
  | nil =>
      have written := text_nameToken (names first List.mem_cons_self)
      simp [qualified, path, written, QualifiedName.sql]
  | cons second others ih =>
      rw [List.forall_mem_cons] at names
      have behind := ih names.2 false
      rw [qualified, path_cons, Phrase.text_append, Phrase.text_one, text_nameToken names.1,
        Phrase.text_append, Phrase.text_one, ← qualified, behind]
      simp [QualifiedName.sql, String.intercalate_cons_cons, Symbol.text]

end Path

/-! ## Reading paths -/

section Reading

variable {context : Context} {tokens located rest : List Located} {names : List Ident}

theorem exists_of_map_eq_path {name : Ident} (spelled : located.map (·.token)
      = (path (name :: names)).tokens) :
    ∃ period position behind, located
        = ⟨.symbol .period, period⟩ :: ⟨nameToken name, position⟩ :: behind ∧
      behind.map (·.token) = (path names).tokens := by
  obtain ⟨period, _, rfl, others⟩ := exists_of_map_eq_cons spelled
  obtain ⟨position, behind, rfl, last⟩ := exists_of_map_eq_cons others
  exact ⟨period, position, behind, rfl, last⟩

theorem length_path (spelled : located.map (·.token) = (path names).tokens) :
    names.length ≤ located.length := by
  induction names generalizing located with
  | nil => exact Nat.zero_le _
  | cons name others ih =>
      obtain ⟨period, position, behind, rfl, last⟩ := exists_of_map_eq_path spelled
      have fewer := ih last
      simp only [List.length_cons]
      omega

theorem namePathUpTo_of_path (spelled : located.map (·.token) = (path names).tokens)
    (stops : tokenOf rest.head? ≠ some (.symbol .period)) {steps : Nat}
    (enough : names.length < steps) (before : List Ident) :
    namePathUpTo steps before context (located ++ rest) = .ok ((before ++ names, false), rest) := by
  induction names generalizing located steps before with
  | nil =>
      cases List.map_eq_nil_iff.1 spelled
      obtain ⟨steps, rfl⟩ : ∃ less, steps = less + 1 := ⟨steps - 1, by omega⟩
      rw [namePathUpTo, List.nil_append, bind_of_ok (symbol_of_ne stops), List.append_nil]
      rfl
  | cons name others ih =>
      rw [List.length_cons] at enough
      obtain ⟨steps, rfl⟩ : ∃ less, steps = less + 1 := ⟨steps - 1, by omega⟩
      obtain ⟨period, position, behind, rfl, last⟩ := exists_of_map_eq_path spelled
      have later := @ih behind last steps (by omega) (before ++ [name])
      rw [List.append_assoc, List.singleton_append] at later
      rw [namePathUpTo, List.cons_append, bind_of_ok symbol_of_eq, if_pos rfl, List.cons_append,
        bind_of_ok next_eq]
      simpa [nameToken, tokenOf] using later

theorem qualifiedNameUpTo_of_path {name : Ident} {position : Position}
    (spelled : located.map (·.token) = (path names).tokens)
    (stops : tokenOf rest.head? ≠ some (.symbol .period)) {steps : Nat}
    (enough : names.length < steps) :
    qualifiedNameUpTo steps context (⟨nameToken name, position⟩ :: (located ++ rest))
      = .ok (name :: names, rest) := by
  induction names generalizing located steps name position with
  | nil =>
      cases List.map_eq_nil_iff.1 spelled
      obtain ⟨steps, rfl⟩ : ∃ less, steps = less + 1 := ⟨steps - 1, by omega⟩
      have read :
          ident context (⟨nameToken name, position⟩ :: ([] ++ rest)) = .ok (name, rest) := by
        rw [ident, bind_of_ok next_eq]
        simp [nameToken, tokenOf]
        rfl
      rw [qualifiedNameUpTo, bind_of_ok read, bind_of_ok (symbol_of_ne stops)]
      rfl
  | cons second others ih =>
      rw [List.length_cons] at enough
      obtain ⟨steps, rfl⟩ : ∃ less, steps = less + 1 := ⟨steps - 1, by omega⟩
      obtain ⟨period, after, behind, rfl, last⟩ := exists_of_map_eq_path spelled
      have later := @ih behind second after last steps (by omega)
      have read : ident context (⟨nameToken name, position⟩ :: (⟨.symbol .period, period⟩ ::
          ⟨nameToken second, after⟩ :: behind ++ rest))
          = .ok (name, ⟨.symbol .period, period⟩ :: ⟨nameToken second, after⟩ ::
            (behind ++ rest)) := by
        rw [ident, bind_of_ok next_eq]
        simp [nameToken, tokenOf]
        rfl
      rw [qualifiedNameUpTo, bind_of_ok read, bind_of_ok symbol_of_eq, if_pos rfl,
        bind_of_ok later]
      rfl

end Reading

/-! ## Reading names -/

section NameRest

variable {context : Context} {grammar : Grammar} {interval : Parser Expr} {position : Position}
  {tokens located rest : List Located} {name : Ident} {names : List Ident}

/-- A free word is a name, whatever keyword it may spell. -/
theorem wordRule_of_name (free : IsFree name) {start : List Located} :
    wordRule grammar interval (wordOf name) start context tokens
      = nameRest grammar interval (wordOf name) context tokens := by
  have same : wordRule grammar interval (wordOf name) start
      = (dialect >>= fun _ => peek >>= fun _ => nameRest grammar interval (wordOf name)) := by
    unfold wordRule
    refine congrArg _ (funext fun dialect => congrArg _ (funext fun found => ?_))
    dsimp only
    split
    iterate 31 exact absurd ‹(wordOf name).keyword = some _› (free _ (by decide))
    rfl
  rw [same, bind_of_ok dialect_eq, bind_of_ok peek_eq]

/-- What follows a name: nothing but a period, or a parenthesis where the name may be called. -/
def NameEnds (name : Ident) (tokens : List Located) : Prop :=
  Ahead nameEnds tokens ∨ IsCallable name ∧ tokenOf tokens.head? = some (.symbol .openParen)

theorem NameEnds.not_textual (ends : NameEnds name tokens) :
    isTextual (tokenOf tokens.head?) = false := by
  have plain : ∀ head ∈ nameEnds, isTextual head = false := by decide
  rcases ends with ahead | ⟨_, opens⟩
  · exact plain _ ahead
  · rw [opens]
    rfl

theorem NameEnds.ne_openBracket (ends : NameEnds name tokens) :
    tokenOf tokens.head? ≠ some (.symbol .openBracket) := by
  rcases ends with ahead | ⟨_, opens⟩
  · exact ahead.ne (by decide)
  · rw [opens]
    decide

/-- The trial of a typed text fails at a name, even if it is the name of a type as well. -/
theorem typedText_of_name {level : Nat} (free : IsFree name) (ends : NameEnds name tokens)
    (tame : Tame tokens) :
    ∃ error, typedText (grammarOfDepth level) interval context
      (⟨.word (wordOf name), position⟩ :: tokens) = .error error := by
  by_cases special : ∃ known ∈ typeWords, (wordOf name).keyword = some known
  · obtain ⟨known, member, spelled⟩ := special
    have other : known ∉ ["ARRAY", "INTERVAL"] := by
      have among : ∀ word ∈ ["ARRAY", "INTERVAL"], word ∈ reserved := by decide
      exact fun found => free known (among known found) spelled
    refine typedText_of_type spelled ?_ ends.ne_openBracket ends.not_textual
    rcases ends with ahead | ⟨callable, _⟩
    · exact knownType_of_ahead member other ahead
    · have plain : known ∈ plainTypes := by
        by_contra sized
        refine callable known (List.mem_append_right _ (List.mem_filter.2 ⟨member, ?_⟩)) spelled
        simpa using sized
      refine .inl ⟨.plain known, ?_, by rw [knownType_of_plain plain]; rfl⟩
      refine bne_iff_ne.2 ?_
      rintro rfl
      exact other (by decide)
  · exact typedText_of_word (fun known member spelled => special ⟨known, member, spelled⟩) tame

theorem leadingWith_name {level : Nat} (free : IsFree name) (ends : NameEnds name tokens)
    (tame : Tame tokens) :
    leadingWith (grammarOfDepth level) interval context (⟨nameToken name, position⟩ :: tokens)
      = (nameRest (grammarOfDepth level) interval (wordOf name) >>= collated) context tokens := by
  rw [nameToken, leadingWith_word (typedText_of_name free ends tame)]
  exact bind_congr_of_eq (wordRule_of_name free)

theorem nameRest_of_name (ahead : Ahead followers tokens) :
    nameRest grammar interval (wordOf name) context tokens = .ok (.name name, tokens) := by
  have known : ∀ head ∈ followers, head ≠ some (.symbol .openParen) ∧
      head ≠ some (.symbol .period) ∧ ∀ form value, head ≠ some (.quoted form value) := by
    have marks : ∀ head ∈ followers, head ≠ some (.symbol .openParen) ∧
        head ≠ some (.symbol .period) := by decide
    have texts (form : QuotedForm) (value : String) : some (.quoted form value) ∉ followers := by
      simp [followers, closers, clauseWords, operators, operatorToken, comparisonWords,
        keywordToken]
    intro head member
    refine ⟨(marks head member).1, (marks head member).2, ?_⟩
    rintro form value rfl
    exact texts form value member
  obtain ⟨notParen, notPeriod, notText⟩ := known _ ahead
  rw [nameRest, bind_of_ok peek_eq]
  generalize tokenOf tokens.head? = head at notParen notPeriod notText
  split
  · exact absurd rfl notParen
  · exact absurd rfl notPeriod
  · exact absurd rfl (notText _ _)
  · exact absurd rfl (notText _ _)
  · exact absurd rfl (notText _ _)
  · rw [ident_wordOf]
    rfl

/-- Behind a name other names are read, up to what they are the name of. -/
theorem nameRest_of_path (spelled : located.map (·.token) = (path names).tokens)
    (opens : tokenOf (located ++ rest).head? = some (.symbol .openParen) ∨
      tokenOf (located ++ rest).head? = some (.symbol .period))
    (stops : tokenOf rest.head? ≠ some (.symbol .period)) (filled : rest ≠ [] ∨ names ≠ []) :
    nameRest grammar interval (wordOf name) context (located ++ rest)
      = (if tokenOf rest.head? == some (.symbol .openParen) then
          call grammar interval (name :: names)
        else pure (.compound (name :: names))) context rest := by
  have enough : names.length < (located ++ rest).length := by
    have fewer := length_path spelled
    rw [List.length_append]
    rcases filled with some | some
    · have positive := List.length_pos_iff.2 some
      omega
    · cases names with
      | nil => exact absurd rfl some
      | cons second others =>
          obtain ⟨period, after, behind, rfl, last⟩ := exists_of_map_eq_path spelled
          have fewer := length_path last
          simp only [List.length_cons]
          omega
  have read := @namePathUpTo_of_path context _ _ _ spelled stops _ enough [name]
  rw [nameRest, bind_of_ok peek_eq]
  rcases opens with same | same
  all_goals
    rw [same]
    dsimp only
    rw [bind_of_ok get_eq, ident_wordOf, bind_of_ok read, List.singleton_append]
    simp only [Bool.false_eq_true, if_false]
    rw [bind_of_ok peek_eq]

end NameRest

/-! ## Terms without parts -/

section Spells

variable {dialect : Dialect} {depth least : Nat} {name : Ident}

theorem opens_name (isName : IsName dialect name) : Opens none (nameToken name).text.toList := by
  obtain ⟨c, rest, letters, _, plain⟩ := exists_text_nameToken isName
  rw [letters]
  exact opens_of_plain plain none

theorem nameToken_ne_exists (free : IsFree name) : nameToken name ≠ keywordToken "EXISTS" := by
  intro same
  have spells : (keywordToken "EXISTS").isKeyword "EXISTS" = true := by decide
  rw [← same, isKeyword_nameToken free (by decide)] at spells
  cases spells

theorem spells_name (isName : IsName dialect name) (free : IsFree name) :
    Spells dialect depth least (.name name) (Phrase.one · (nameToken name)) where
  toFronts := .one (.name free) (clear_name isName) (opens_name isName) (nameToken_ne_exists free)
  text := by
    intro apart
    rw [Phrase.text_one, text_nameToken isName]
    rfl
  reaches := by
    intro size level context apart _ _ _
    refine .of_leading (.one fun position rest ahead tame => ?_)
    have follows := ahead.mono looser_subset_followers
    have ends : NameEnds name rest := .inl (follows.mono (List.subset_cons_self _ _))
    refine (leadingWith_name free ends tame.tail).trans ?_
    exact (bind_of_ok (nameRest_of_name follows)).trans (collated_of_ahead follows)

/-- Names with periods between them start no wildcard. -/
theorem pathEnds_path {names : List Ident} {rest : List Token}
    (stops : rest.head? ≠ some (.symbol .period)) : PathEnds ((path names).tokens ++ rest) := by
  induction names with
  | nil => exact pathEnds_of_ne stops
  | cons name others ih => exact ih

theorem fronts_qualified {others : List Ident} {second : Phrase}
    (names : ∀ found ∈ name :: others, IsName dialect found) (free : IsFree name)
    (clear : ∀ apart, (qualified apart name others ++ second).Clear dialect)
    (noPeriod : ∀ later, some (.symbol .period) ∉ later →
      some (.symbol .period) ∉ second.heads later) :
    Fronts dialect none fun apart => qualified apart name others ++ second where
  clear := clear
  pieces := fun apart => ⟨_, _, rfl, .name free, by simp, fun same =>
    absurd same (nameToken_ne_exists free)⟩
  opens := by
    rw [Phrase.text_append, qualified, Phrase.text_append, Phrase.text_one]
    exact ((opens_name (names name List.mem_cons_self)).append _).append _
  unstarred := by
    intro apart later rest behind plain
    rw [Phrase.ends_append_of_uncut rfl] at behind
    rw [Phrase.shown_append_of_uncut rfl, List.append_assoc]
    refine pathEnds_path fun same => ?_
    exact noPeriod later plain (same ▸ Phrase.head_mem_heads behind)

theorem spells_compound {second : Ident} {others : List Ident}
    (names : ∀ found ∈ name :: second :: others, IsName dialect found) (free : IsFree name) :
    Spells dialect depth least (.compound (name :: second :: others))
      (qualified · name (second :: others)) where
  toFronts := by
    have whole := @fronts_qualified dialect name (second :: others) (.plain []) names free
      (fun apart => by rw [Phrase.append_nil]; exact clear_qualified names apart)
      fun later plain => plain
    simp only [Phrase.append_nil] at whole
    exact whole
  text := text_qualified names
  reaches := by
    intro size level context apart _ _ _
    refine .of_leading (.plain fun located rest spelled ahead tame => ?_)
    obtain ⟨position, behind, rfl, later⟩ := exists_of_map_eq_cons spelled
    have follows := ahead.mono looser_subset_followers
    have notPeriod := follows.ne (show some (.symbol .period) ∉ followers by decide)
    have notParen : (tokenOf rest.head? == some (.symbol .openParen)) = false := by
      rw [beq_eq_false_iff_ne]
      exact follows.ne (by decide)
    have read := @nameRest_of_path context (grammarOfDepth level)
      (intervalRule (grammarOfDepth level)) behind rest name (second :: others) later
      (by
        obtain ⟨period, after, _, rfl, _⟩ := exists_of_map_eq_path later
        exact .inr rfl)
      notPeriod (.inr (List.cons_ne_nil _ _))
    rw [notParen, if_neg Bool.false_ne_true] at read
    have ends : NameEnds name (behind ++ rest) := by
      obtain ⟨period, after, _, rfl, _⟩ := exists_of_map_eq_path later
      exact .inl List.mem_cons_self
    exact (leadingWith_name free ends tame.tail).trans
      ((bind_of_ok read).trans (collated_of_ahead follows))

theorem exists_digit_of_isNumber {letters : List Char} (number : IsNumber letters) :
    ∃ c rest, letters = c :: rest ∧ Text.isAsciiDigit c = true := by
  obtain ⟨whole, fraction, rfl, nonempty, digits, _⟩ := number
  cases whole with
  | nil => contradiction
  | cons c rest => exact ⟨c, rest ++ fraction, rfl, digits c List.mem_cons_self⟩

theorem oneLine_of_isNumber {letters : List Char} (number : IsNumber letters) :
    '\n' ∉ letters := by
  obtain ⟨whole, fraction, rfl, _, digits, behind⟩ := number
  rw [List.mem_append]
  rintro (inWhole | inFraction)
  · exact absurd (digits _ inWhole) (by decide)
  · rcases behind with rfl | ⟨more, rfl, digits⟩
    · cases inFraction
    · rcases List.mem_cons.1 inFraction with period | inMore
      · exact absurd period (by decide)
      · exact absurd (digits _ inMore) (by decide)

/-- The token that spells a plain value. -/
def valueToken : Literal → Token
  | .number digits long => .number digits long
  | .quoted form value => .quoted form value
  | .boolean true => keywordToken "true"
  | .boolean false => keywordToken "false"
  | _ => keywordToken "NULL"

theorem spells_number {digits : String} (isNumber : IsNumber digits.toList) :
    Spells dialect depth least (.literal (.number digits false))
      (Phrase.one · (.number digits false)) where
  toFronts := by
    have letters : (Token.number digits false).text.toList = digits.toList := rfl
    refine .one (.number digits)
      (fun apart => .one (fun following broken => ?_) ?_ (by simp [IsTame])) ?_
      (by simp [keywordToken])
    · have read := scans_number dialect isNumber broken
      rwa [String.ofList_toList] at read
    · rw [letters]
      exact oneLine_of_isNumber isNumber
    · obtain ⟨c, rest, same, digit⟩ := exists_digit_of_isNumber isNumber
      rw [letters, same]
      refine opens_of_plain (fun member => ?_) none
      simp only [List.mem_cons, List.not_mem_nil, or_false] at member
      rcases member with rfl | rfl | rfl | rfl | rfl <;> revert digit <;> decide
  text := by
    intro apart
    rw [Phrase.text_one]
    rfl
  reaches := by
    intro size level context apart _ _ _
    refine .of_leading (.one fun position rest ahead _ => ?_)
    exact leadingWith_number.trans (collated_of_ahead (ahead.mono looser_subset_followers))

theorem spells_text {value : String} (isText : IsText value.toList) :
    Spells dialect depth least (.literal (.quoted .single value))
      (Phrase.one · (.quoted .single value)) where
  toFronts := by
    have letters : (Token.quoted .single value).text.toList
        = '\'' :: (value.toList ++ ['\'']) := by
      simp [Token.text, QuotedForm.opening]
    refine .one (.text value) (fun apart => .one (fun following broken => ?_) ?_ (by simp [IsTame]))
      ?_ (by simp [keywordToken])
    · have read := scans_text dialect isText broken
      rwa [String.ofList_toList] at read
    · rw [letters, List.mem_cons, List.mem_append, List.mem_singleton]
      rintro (quote | inText | quote)
      · exact absurd quote (by decide)
      · exact (isText _ inText).2.2 rfl
      · exact absurd quote (by decide)
    · rw [letters]
      exact opens_of_plain (by decide) none
  text := by
    intro apart
    have sql : (Expr.literal (.quoted .single value)).sql = quoteText '\'' value := rfl
    rw [Phrase.text_one, sql]
    simp [Token.text, QuotedForm.opening, quoteText,
      doubleQuotes_of_plain fun c member => (isText c member).1]
  reaches := by
    intro size level context apart _ _ _
    refine .of_leading (.one fun position rest ahead _ => ?_)
    exact leadingWith_quotation.trans (collated_of_ahead (ahead.mono looser_subset_followers))

/-- A keyword in the place of a value. -/
theorem spells_constant {value : Literal}
    (known : value = .null ∨ ∃ truth, value = .boolean truth) :
    Spells dialect depth least (.literal value) (Phrase.one · (valueToken value)) := by
  obtain ⟨word, starts, isWord, same, sql, read⟩ : ∃ word ∈ startWords, IsWord word.toList ∧
      valueToken value = keywordToken word ∧ (Expr.literal value).sql = word ∧
        ∀ level context interval position tokens, Tame tokens →
          leadingWith (grammarOfDepth level) interval context
            (⟨keywordToken word, position⟩ :: tokens)
            = collated (.literal value) context tokens := by
    rcases known with rfl | ⟨truth, rfl⟩
    · refine ⟨"NULL", by decide, by decide, rfl, rfl, fun level context interval position tokens
        tame => (leadingWith_keyword (by decide) tame).trans (bind_of_ok rfl)⟩
    · cases truth with
      | true =>
          refine ⟨"true", by decide, by decide, rfl, rfl, fun level context interval position tokens
            tame => (leadingWith_keyword (by decide) tame).trans (bind_of_ok rfl)⟩
      | false =>
          refine ⟨"false", by decide, by decide, rfl, rfl, fun level context interval position
            tokens tame => (leadingWith_keyword (by decide) tame).trans (bind_of_ok rfl)⟩
  have notExists : keywordToken word ≠ keywordToken "EXISTS" := by
    rw [← same]
    rcases known with rfl | ⟨truth, rfl⟩
    · decide
    · cases truth <;> decide
  have opens : ∀ word ∈ startWords, ∃ c rest, word.toList = c :: rest ∧
      c ∉ ['>', '?', '*', '-', '@'] := by
    intro word member
    simp only [startWords, List.mem_cons, List.not_mem_nil, or_false] at member
    rcases member with rfl | rfl | rfl | rfl | rfl | rfl | rfl | rfl | rfl <;>
      exact ⟨_, _, rfl, by decide⟩
  rw [same]
  refine ⟨.one (.word starts) (Phrase.clear_keyword isWord) ?_ notExists, fun apart => ?_,
    fun size level context apart _ _ _ => .of_leading (.one fun position rest ahead tame => ?_)⟩
  · obtain ⟨c, rest, letters, plain⟩ := opens word starts
    rw [text_keywordToken, letters]
    exact opens_of_plain plain none
  · rw [Phrase.text_one, text_keywordToken, sql]
  · exact (read _ _ _ _ _ tame.tail).trans
      (collated_of_ahead (ahead.mono looser_subset_followers))

/-- A value is spelled by its token. -/
theorem spells_literal {value : Literal} (isValue : IsValue value) :
    Spells dialect depth least (.literal value) (Phrase.one · (valueToken value)) := by
  cases isValue with
  | number isNumber => exact spells_number isNumber
  | text isText => exact spells_text isText
  | boolean truth => exact spells_constant (.inr ⟨truth, rfl⟩)
  | null => exact spells_constant (.inl rfl)

end Spells

end Querent.Sql.Plain

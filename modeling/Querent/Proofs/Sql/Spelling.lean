import Mathlib.Tactic.ByContra
import Querent.Proofs.Sql.ForbiddenWords
import Querent.Proofs.Sql.Harmless

/-!
# Where tokens come from

Scanning a text leaves an end of it and takes each token from the part before.  `TakenFrom` says how:
the letters of words and numbers stand together in the text, and the values of quoted texts are read
from a part of it.

A token that spells a keyword was read from letters that stand together in the text, and in upper
case these letters are the keyword.  So where a text mentions no forbidden word, no token of it
spells one.
-/

namespace Querent.Sql

namespace Lexer

/-! ## Readers leave an end of the text -/

theorem suffix_of_cons {c : Char} {read : Read (List Char)} {text value rest : List Char}
    (leaves : ∀ value rest, read = some (value, rest) → rest <:+ text)
    (done : Read.cons c read = some (value, rest)) : rest <:+ text := by
  unfold Read.cons at done
  obtain ⟨⟨found, left⟩, known, same⟩ := Option.map_eq_some_iff.1 done
  cases same
  exact leaves found rest known

theorem quotedText_suffix {escapes : Bool} {quote : Char} {text value rest : List Char}
    (done : quotedText escapes quote text = some (value, rest)) : rest <:+ text := by
  fun_induction quotedText escapes quote text generalizing value rest with
  | case1 => cases done
  | case2 c second after quoted same ih =>
      exact (suffix_of_cons (fun _ _ => ih) done).trans
        ((List.suffix_cons _ _).trans (List.suffix_cons _ _))
  | case3 c second after quoted differs =>
      cases done
      exact List.suffix_cons _ _
  | case4 c quoted =>
      cases done
      exact List.nil_suffix
  | case5 c letter after plain escaped ih =>
      exact (suffix_of_cons (fun _ _ => ih) done).trans
        ((List.suffix_cons _ _).trans (List.suffix_cons _ _))
  | case6 => cases done
  | case7 c rest' plain unescaped ih =>
      exact (suffix_of_cons (fun _ _ => ih) done).trans (List.suffix_cons _ _)

theorem escapedText_suffix {escaped : Bool} {text value rest : List Char}
    (done : escapedText escaped text = some (value, rest)) : rest <:+ text := by
  fun_induction escapedText escaped text generalizing value rest with
  | case1 => cases done
  | case2 c after ih =>
      exact (suffix_of_cons (fun _ _ => ih) done).trans (List.suffix_cons _ _)
  | case3 after ih =>
      exact (suffix_of_cons (fun _ _ => ih) done).trans
        ((List.suffix_cons _ _).trans (List.suffix_cons _ _))
  | case4 =>
      cases done
      exact List.suffix_cons _ _
  | case5 after ih => exact (ih done).trans (List.suffix_cons _ _)
  | case6 c after _ _ _ ih =>
      exact (suffix_of_cons (fun _ _ => ih) done).trans (List.suffix_cons _ _)

theorem dollarText_suffix {dollar : Bool} {text value rest : List Char}
    (done : dollarText dollar text = some (value, rest)) : rest <:+ text := by
  fun_induction dollarText dollar text generalizing value rest with
  | case1 => cases done
  | case2 c after closes =>
      cases done
      exact List.suffix_cons _ _
  | case3 c after plain ih =>
      have inner (value rest : List Char)
          (read : Read.cons c (dollarText false after) = some (value, rest)) : rest <:+ after :=
        suffix_of_cons (fun _ _ => ih) read
      exact (suffix_of_cons inner done).trans (List.suffix_cons _ _)
  | case4 c after opens ih => exact (ih done).trans (List.suffix_cons _ _)
  | case5 c after plain ih =>
      exact (suffix_of_cons (fun _ _ => ih) done).trans (List.suffix_cons _ _)

theorem isPrefix_of_dollarText {dollar : Bool} {text value rest : List Char}
    (done : dollarText dollar text = some (value, rest)) :
    value <+: if dollar then '$' :: text else text := by
  fun_induction dollarText dollar text generalizing value rest with
  | case1 => cases done
  | case2 c after closes =>
      cases done
      exact List.nil_prefix
  | case3 c after plain ih =>
      obtain ⟨⟨_, _⟩, known, same⟩ := Option.map_eq_some_iff.1 done
      cases same
      obtain ⟨⟨inner, _⟩, read, same⟩ := Option.map_eq_some_iff.1 known
      cases same
      simpa [List.cons_prefix_cons] using ih read
  | case4 c after opens ih =>
      have same : c = '$' := by simpa using opens
      subst same
      exact ih done
  | case5 c after plain ih =>
      obtain ⟨⟨inner, _⟩, read, same⟩ := Option.map_eq_some_iff.1 done
      cases same
      simpa [List.cons_prefix_cons] using ih read

theorem afterBlockComment_suffix {depth : Nat} {last : Char} {text rest : List Char}
    (done : afterBlockComment depth last text = some rest) : rest <:+ text := by
  fun_induction afterBlockComment depth last text with
  | case1 => cases done
  | case2 _ _ _ _ _ ih => exact (ih done).trans (List.suffix_cons _ _)
  | case3 =>
      cases done
      exact List.suffix_cons _ _
  | case4 _ _ _ _ _ _ _ ih => exact (ih done).trans (List.suffix_cons _ _)
  | case5 _ _ _ _ _ _ ih => exact (ih done).trans (List.suffix_cons _ _)

theorem afterLine_suffix (text : List Char) : afterLine text <:+ text :=
  (List.drop_suffix _ _).trans (List.dropWhile_suffix _)

theorem afterClosingTag_suffix {tag : String} {letters text rest : List Char}
    (done : afterClosingTag tag letters text = .ok rest) : rest <:+ text := by
  fun_induction afterClosingTag tag letters text with
  | case1 =>
      cases done
      exact List.suffix_cons _ _
  | case2 => cases done
  | case3 => cases done
  | case4 _ _ _ _ _ ih => exact (ih done).trans (List.suffix_cons _ _)
  | case5 => cases done

/-! ## Scanning -/

/-- Whether a number may be written with a character. -/
def isNumeral (c : Char) : Bool :=
  Text.isAsciiDigit c || c == '.' || c == 'e' || c == 'E' || c == '+' || c == '-'

/-- How a token is taken from a text. -/
inductive TakenFrom (dialect : Dialect) (text : List Char) : Token → Prop where
  | word {letters : List Char} (inText : letters <:+: text) :
      TakenFrom dialect text (.word (.plain letters))
  | name {quote : Char} {rest value after : List Char}
      (opens : dialect.opensQuotedName quote = true) (inText : rest <:+: text)
      (read : quotedName (closingQuote quote) rest = some (value, after)) :
      TakenFrom dialect text (.word (.quoted quote value))
  | number {digits : String} {long : Bool} (numeral : ∀ c ∈ digits.toList, isNumeral c = true)
      (inText : (numberText digits long).toList <:+: text) :
      TakenFrom dialect text (.number digits long)
  | quoted {form : QuotedForm} {quote : Char} {rest value after : List Char}
      (isMark : quote = '\'' ∨ quote = '"') (inText : rest <:+: text)
      (read : quotedText (dialect = .mySql) quote rest = some (value, after)) :
      TakenFrom dialect text (.quoted form (String.ofList value))
  | escaped {rest value after : List Char} (inText : rest <:+: text)
      (read : escapedText false rest = some (value, after)) :
      TakenFrom dialect text (.quoted .escaped (String.ofList value))
  | hex {value : List Char} (inText : value <:+: text) :
      TakenFrom dialect text (.quoted .hex (String.ofList value))
  | dollarQuoted {tag : Option String} {value : List Char}
      (tagInText : ∀ letters ∈ tag, letters.toList <:+: text) (inText : value <:+: text) :
      TakenFrom dialect text (.dollarQuoted tag (String.ofList value))
  | placeholder {name : String} (inText : name.toList <:+: text) :
      TakenFrom dialect text (.placeholder name)
  | symbol (mark : Symbol) : TakenFrom dialect text (.symbol mark)
  | stray {c : Char} (inText : [c] <:+: text) : TakenFrom dialect text (.stray c)

theorem TakenFrom.mono {dialect : Dialect} {text whole : List Char} {token : Token}
    (taken : TakenFrom dialect text token) (inWhole : text <:+: whole) :
    TakenFrom dialect whole token := by
  cases taken with
  | word inText => exact .word (inText.trans inWhole)
  | name opens inText read => exact .name opens (inText.trans inWhole) read
  | number numeral inText => exact .number numeral (inText.trans inWhole)
  | quoted isMark inText read => exact .quoted isMark (inText.trans inWhole) read
  | escaped inText read => exact .escaped (inText.trans inWhole) read
  | hex inText => exact .hex (inText.trans inWhole)
  | dollarQuoted tagInText inText =>
      exact .dollarQuoted (fun letters isTag => (tagInText letters isTag).trans inWhole)
        (inText.trans inWhole)
  | placeholder inText => exact .placeholder (inText.trans inWhole)
  | symbol mark => exact .symbol mark
  | stray inText => exact .stray (inText.trans inWhole)

/-- Whether scanning a text, wherever it succeeds, leaves an end of it and takes a token from it. -/
def Proceeds (dialect : Dialect) (text : List Char) (scanned : Scan) : Prop :=
  ∀ token behind, scanned = .ok (token, behind) →
    behind <:+ text ∧ ∀ found ∈ token, TakenFrom dialect text found

namespace Proceeds

variable {dialect : Dialect} {text rest : List Char}

theorem found {token : Token} (suffix : rest <:+ text) (taken : TakenFrom dialect text token) :
    Proceeds dialect text (found token rest) := by
  rintro _ _ ⟨⟩
  refine ⟨suffix, ?_⟩
  rintro _ ⟨⟩
  exact taken

theorem mark (symbol : Symbol) (suffix : rest <:+ text) :
    Proceeds dialect text (mark symbol rest) :=
  found suffix (.symbol symbol)

theorem skip (suffix : rest <:+ text) : Proceeds dialect text (.ok (none, rest)) := by
  rintro _ _ ⟨⟩
  exact ⟨suffix, by simp⟩

theorem error (fault : Fault) : Proceeds dialect text (.error fault) := by
  rintro _ _ ⟨⟩

end Proceeds

theorem proceeds_scanWord (dialect : Dialect) {text : List Char} (first rest : List Char)
    (suffix : first ++ rest <:+ text) : Proceeds dialect text (scanWord dialect first rest) := by
  have taken : rest.takeWhile dialect.continuesName <+: rest := List.takeWhile_prefix _
  refine .found ?_ (.word ?_)
  · exact (List.drop_suffix _ _).trans ((List.suffix_append _ _).trans suffix)
  · exact ((List.prefix_append_right_inj first).2 taken).isInfix.trans suffix.isInfix

theorem proceeds_scanQuoted (dialect : Dialect) (form : QuotedForm) {quote : Char}
    (isMark : quote = '\'' ∨ quote = '"') (start : List Char) {text rest : List Char}
    (suffix : rest <:+ text) : Proceeds dialect text (scanQuoted dialect form quote start rest) := by
  unfold scanQuoted
  split
  next value after done =>
    exact .found ((quotedText_suffix done).trans suffix) (.quoted isMark suffix.isInfix done)
  next => exact .error _

theorem proceeds_scanQuotedName {dialect : Dialect} {quote : Char}
    (opens : dialect.opensQuotedName quote = true) (start : List Char) {text rest : List Char}
    (suffix : rest <:+ text) : Proceeds dialect text (scanQuotedName quote start rest) := by
  unfold scanQuotedName
  split
  next value after done =>
    exact .found ((quotedText_suffix done).trans suffix) (.name opens suffix.isInfix done)
  next => exact .error _

theorem proceeds_scanNameSign (dialect : Dialect) (sign : Char) (symbol : Symbol)
    {text : List Char} (first rest : List Char) (suffix : first ++ rest <:+ text) :
    Proceeds dialect text (scanNameSign dialect sign first rest symbol) := by
  have restSuffix : rest <:+ text := (List.suffix_append _ _).trans suffix
  unfold scanNameSign
  split
  · exact .mark _ restSuffix
  · exact .mark _ restSuffix
  next c after _ =>
    split
    · exact proceeds_scanWord dialect _ _ (by simpa using suffix)
    · exact .mark _ restSuffix

theorem proceeds_scanIntroduced (dialect : Dialect) (letter : Char)
    {forms : List (Char × QuotedForm)} (areMarks : ∀ form ∈ forms, form.1 = '\'' ∨ form.1 = '"')
    {text rest : List Char} (suffix : letter :: rest <:+ text) :
    Proceeds dialect text (scanIntroduced dialect letter forms rest) := by
  unfold scanIntroduced
  split
  next quote body =>
    split
    next form known =>
      obtain ⟨_, _, rfl, _⟩ := List.lookup_eq_some_iff.1 known
      exact proceeds_scanQuoted _ _ (areMarks (quote, form) (by simp)) _
        (((List.suffix_cons _ _).trans (List.suffix_cons _ _)).trans suffix)
    · exact proceeds_scanWord dialect _ _ suffix
  next => exact proceeds_scanWord dialect _ _ suffix

theorem proceeds_scanDollar (dialect : Dialect) {text rest : List Char}
    (suffix : '$' :: rest <:+ text) : Proceeds dialect text (scanDollar rest) := by
  have restSuffix : rest <:+ text := (List.suffix_cons _ _).trans suffix
  unfold scanDollar
  split
  next body =>
    have bodySuffix : body <:+ text := (List.suffix_cons _ _).trans restSuffix
    split
    next value after done =>
      refine .found ((dollarText_suffix done).trans bodySuffix) (.dollarQuoted (by simp) ?_)
      exact (isPrefix_of_dollarText done).isInfix.trans bodySuffix.isInfix
    next => exact .error _
  next =>
    extract_lets inTag letters tag
    have tagged : letters <+: rest := List.takeWhile_prefix _
    have tagless : rest.dropWhile inTag <:+ rest := List.dropWhile_suffix _
    have letters_toList : tag.toList = letters := String.toList_ofList
    split
    next body opened =>
      split
      next closing closes =>
        have closed : '$' :: closing <:+ body := closes ▸ List.dropWhile_suffix _
        have opens : '$' :: body <:+ rest := opened ▸ tagless
        have bodySuffix : body <:+ text := (List.suffix_cons _ _).trans (opens.trans restSuffix)
        cases ended : afterClosingTag tag letters closing with
        | error fault => exact .error _
        | ok after =>
            have inner := (afterClosingTag_suffix ended).trans
              ((List.suffix_cons _ _).trans closed)
            refine .found (inner.trans bodySuffix) (.dollarQuoted ?_ ?_)
            · intro named isTag
              split at isTag
              · cases isTag
              · cases isTag
                rw [letters_toList]
                exact tagged.isInfix.trans restSuffix.isInfix
            · exact (List.takeWhile_prefix _).isInfix.trans bodySuffix.isInfix
      next => exact .error _
    next =>
      refine .found (tagless.trans restSuffix) (.placeholder ?_)
      rw [String.toList_append, letters_toList]
      have whole : '$' :: letters <+: '$' :: rest := List.cons_prefix_cons.2 ⟨rfl, tagged⟩
      exact whole.isInfix.trans suffix.isInfix

/-! ### Numbers -/

/-- What is taken off the rest of a text is added to what was taken off before. -/
theorem append_drop_of_taken {text taken rest more : List Char} (split : taken ++ rest = text)
    (start : more <+: rest) : (taken ++ more) ++ rest.drop more.length = text := by
  rw [List.append_assoc, List.prefix_iff_eq_append.1 start, split]

theorem isPrefix_filter_take_one (keep : Char → Bool) (text : List Char) :
    (text.take 1).filter keep <+: text :=
  match text with
  | [] => List.prefix_rfl
  | c :: rest => by
    cases kept : keep c <;> simp [kept]

theorem isPrefix_exponent (text : List Char) : (exponent text).1 <+: text := by
  unfold exponent
  split
  next e rest =>
    split
    · have signed := append_drop_of_taken (rfl : [e] ++ rest = e :: rest)
        (isPrefix_filter_take_one (fun c => c == '+' || c == '-') rest)
      have whole := append_drop_of_taken signed (List.takeWhile_prefix Text.isAsciiDigit)
      exact ⟨_, by simpa using whole⟩
    · exact List.nil_prefix
  next => exact List.nil_prefix

theorem isNumeral_of_mem_digits {text : List Char} :
    ∀ c ∈ text.takeWhile Text.isAsciiDigit, isNumeral c = true := by
  intro c member
  have isDigit : Text.isAsciiDigit c = true := List.all_eq_true.1 List.all_takeWhile c member
  simp [isNumeral, isDigit]

theorem isNumeral_of_mem_exponent {text : List Char} :
    ∀ c ∈ (exponent text).1, isNumeral c = true := by
  unfold exponent
  split
  next e rest =>
    split
    next power =>
      intro c member
      rcases List.mem_append.1 member with inSign | inDigits
      · rcases List.mem_cons.1 inSign with rfl | isSign
        · have isLetter : c = 'e' ∨ c = 'E' := by simpa using power
          rcases isLetter with rfl | rfl <;> rfl
        · have signed : c = '+' ∨ c = '-' := by simpa using (List.mem_filter.1 isSign).2
          rcases signed with rfl | rfl <;> rfl
      · exact isNumeral_of_mem_digits c inDigits
    next => simp
  next => simp

theorem proceeds_scanNumber (dialect : Dialect) {whole text : List Char}
    (suffix : text <:+ whole) : Proceeds dialect whole (scanNumber dialect text) := by
  unfold scanNumber
  extract_lets digits afterDigits point afterPoint fraction mantissa afterMantissa
  have digitsTaken : digits ++ afterDigits = text :=
    append_drop_of_taken (List.nil_append text) (List.takeWhile_prefix _)
  have pointTaken : (digits ++ point) ++ afterPoint = text :=
    append_drop_of_taken digitsTaken (isPrefix_filter_take_one _ _)
  have fractionStarts : fraction <+: afterPoint := by
    unfold fraction
    split
    · exact List.nil_prefix
    · exact List.takeWhile_prefix _
  have mantissaTaken : mantissa ++ afterMantissa = text :=
    append_drop_of_taken pointTaken fractionStarts
  have afterDigitsSuffix : afterDigits <:+ whole := (List.drop_suffix _ _).trans suffix
  have mantissaNumeral : ∀ c ∈ mantissa, isNumeral c = true := by
    unfold mantissa
    rw [List.forall_mem_append, List.forall_mem_append]
    constructor
    · constructor
      · exact isNumeral_of_mem_digits
      · intro c member
        have isPoint : c = '.' := by simpa using (List.mem_filter.1 member).2
        rw [isPoint]
        rfl
    · unfold fraction
      split
      · simp
      · exact isNumeral_of_mem_digits
  have scaleNumeral := @isNumeral_of_mem_exponent afterMantissa
  have scaleStarts := isPrefix_exponent afterMantissa
  clear_value mantissa afterMantissa fraction afterPoint point digits afterDigits
  split
  next hexDigits =>
    have hexSuffix : hexDigits <:+ whole := (List.suffix_cons _ _).trans afterDigitsSuffix
    refine .found ((List.drop_suffix _ _).trans hexSuffix) (.hex ?_)
    exact (List.takeWhile_prefix _).isInfix.trans hexSuffix.isInfix
  next =>
    split
    · exact .mark _ ((mantissaTaken ▸ List.suffix_append _ _).trans suffix)
    split
    next scale complete known =>
      rw [known] at scaleStarts scaleNumeral
      extract_lets number rest letters
      have numberTaken : number ++ rest = text := by
        cases complete with
        | true => exact append_drop_of_taken mantissaTaken scaleStarts
        | false => exact mantissaTaken
      have numeral : ∀ c ∈ (String.ofList number).toList, isNumeral c = true := by
        rw [String.toList_ofList]
        cases complete with
        | true => exact List.forall_mem_append.2 ⟨mantissaNumeral, scaleNumeral⟩
        | false => exact mantissaNumeral
      have restSuffix : rest <:+ whole := (numberTaken ▸ List.suffix_append _ _).trans suffix
      have lettersStart : letters <+: rest := by
        unfold letters
        split
        · exact List.takeWhile_prefix _
        · exact List.nil_prefix
      have inWhole {piece : List Char} (starts : piece <+: text) : piece <:+: whole :=
        starts.isInfix.trans suffix.isInfix
      clear_value number rest letters
      split
      · split
        next after =>
          refine .found ((List.suffix_cons _ _).trans restSuffix) (.number numeral (inWhole ?_))
          exact ⟨after, by simp [numberText, ← numberTaken]⟩
        next =>
          refine .found restSuffix (.number numeral (inWhole ?_))
          exact ⟨rest, by simp [numberText, ← numberTaken]⟩
      · refine .found ((List.drop_suffix _ _).trans restSuffix) (.word (inWhole ?_))
        exact ⟨_, append_drop_of_taken numberTaken lettersStart⟩

/-! ### Symbols and the first character -/

theorem proceeds_scanSymbol (dialect : Dialect) (c : Char) (rest : List Char) :
    Proceeds dialect (c :: rest) (scanSymbol dialect c rest) := by
  have here : rest <:+ c :: rest := List.suffix_cons _ _
  unfold scanSymbol
  split
  -- Most branches yield a symbol of up to four characters.
  all_goals first
    | exact .mark _ (by simp [List.suffix_cons_iff])
    | skip
  next after =>
    exact .skip ((afterLine_suffix after).trans ((List.suffix_cons _ _).trans here))
  next after =>
    split
    next behind closed =>
      exact .skip ((afterBlockComment_suffix closed).trans ((List.suffix_cons _ _).trans here))
    next => exact .error _
  next after =>
    split
    · exact .mark _ (by simp [List.suffix_cons_iff])
    · exact .mark _ here
  next => exact proceeds_scanNameSign _ _ _ _ _ List.suffix_rfl
  next => exact proceeds_scanNameSign _ _ _ _ _ List.suffix_rfl
  next => exact proceeds_scanNameSign _ _ _ _ _ List.suffix_rfl
  next =>
    extract_lets digits
    have numbered : '?' :: digits <+: '?' :: rest :=
      List.cons_prefix_cons.2 ⟨rfl, List.takeWhile_prefix _⟩
    refine .found ((List.drop_suffix _ _).trans here) (.placeholder ?_)
    rw [String.toList_ofList]
    exact numbered.isInfix
  next =>
    split
    · exact proceeds_scanWord _ _ _ List.suffix_rfl
    split
    next sign =>
      rw [beq_iff_eq] at sign
      subst sign
      exact proceeds_scanDollar _ List.suffix_rfl
    split
    · exact .skip here
    · exact .found here (.stray ⟨[], rest, rfl⟩)

theorem proceeds_scan (dialect : Dialect) (c : Char) (rest : List Char) :
    Proceeds dialect (c :: rest) (scan dialect c rest) := by
  have here : rest <:+ c :: rest := List.suffix_cons _ _
  have word : Proceeds dialect (c :: rest) (scanWord dialect [c] rest) :=
    proceeds_scanWord _ _ _ List.suffix_rfl
  have introduced {forms : List (Char × QuotedForm)}
      (areMarks : ∀ form ∈ forms, form.1 = '\'' ∨ form.1 = '"') :
      Proceeds dialect (c :: rest) (scanIntroduced dialect c forms rest) :=
    proceeds_scanIntroduced _ _ areMarks List.suffix_rfl
  unfold scan
  split
  iterate 4 exact .skip here
  iterate 4
    split
    · exact introduced (by simp)
    · exact word
  iterate 2 exact introduced (by simp)
  iterate 2
    split
    next body =>
      split
      next value after done =>
        have bodySuffix := (List.suffix_cons '\'' body).trans here
        exact .found ((escapedText_suffix done).trans bodySuffix)
          (.escaped bodySuffix.isInfix done)
      next => exact .error _
    next => exact word
  iterate 2 exact introduced (by simp)
  · exact proceeds_scanQuoted _ _ (.inl rfl) _ here
  split
  next opens => exact proceeds_scanQuotedName opens _ here
  split
  next isMark => exact proceeds_scanQuoted _ _ (.inr rfl) _ here
  split
  · exact proceeds_scanNumber _ List.suffix_rfl
  split
  · exact word
  · exact proceeds_scanSymbol _ _ _

/-! ## All tokens of a text -/

theorem takenFrom_of_tokensFrom {dialect : Dialect} {steps : Nat} {position : Position}
    {text : List Char} {tokens : List Located}
    (read : tokensFrom dialect steps position text = .ok tokens) :
    ∀ located ∈ tokens, TakenFrom dialect text located.token := by
  induction steps generalizing position text tokens with
  | zero =>
      cases read
      simp
  | succ steps ih =>
      cases text with
      | nil =>
          cases read
          simp
      | cons c rest =>
          unfold tokensFrom at read
          split at read
          · cases read
          next token behind scanned =>
            obtain ⟨suffix, taken⟩ := proceeds_scan dialect c rest token behind scanned
            split at read
            · cases read
            next later readLater =>
              have takenLater : ∀ located ∈ later, TakenFrom dialect (c :: rest) located.token :=
                fun located member => (ih readLater located member).mono suffix.isInfix
              split at read
              next found =>
                cases read
                rw [List.forall_mem_cons]
                exact ⟨taken found rfl, takenLater⟩
              next =>
                cases read
                exact takenLater

end Lexer

theorem takenFrom_of_locatedTokens {dialect : Dialect} {text : String} {tokens : List Located}
    (read : locatedTokens dialect text = .ok tokens) :
    ∀ located ∈ tokens, Lexer.TakenFrom dialect text.toList located.token :=
  Lexer.takenFrom_of_tokensFrom read

/-! ## Keywords -/

/-- A keyword is the upper-case form of the letters that spell it. -/
theorem upper_of_ofSpelling? {letters : List Char} {word : Keyword}
    (known : Keyword.ofSpelling? letters = some word) : Text.upper letters = word.toList := by
  unfold Keyword.ofSpelling? at known
  split at known
  · cases known
  next initial rest upper =>
    have same := List.find?_some known
    simp only [beq_iff_eq] at same
    rw [same, String.toList_ofList]
    exact upper

/-- A token that spells a keyword does so with letters that stand together in the text. -/
theorem Lexer.TakenFrom.exists_spelling {dialect : Dialect} {text : List Char} {token : Token}
    (taken : TakenFrom dialect text token) {word : Keyword} (spells : token.isKeyword word = true) :
    ∃ piece, piece <:+: text ∧ Text.upper piece = word.toList := by
  cases taken with
  | word inText =>
      refine ⟨_, inText, upper_of_ofSpelling? ?_⟩
      simpa [Token.isKeyword, Token.keyword?, Word.plain] using spells
  | _ => simp [Token.isKeyword, Token.keyword?, Word.quoted] at spells

/-- A text that mentions no forbidden word has harmless tokens. -/
theorem harmless_of_locatedTokens {dialect : Dialect} {text : String} {tokens : List Located}
    (read : locatedTokens dialect text = .ok tokens)
    (allowed : ∀ word ∈ forbiddenWords, ¬ Mentions text word) : Harmless tokens := by
  intro located member word forbidden
  by_contra spells
  rw [Bool.not_eq_false] at spells
  obtain ⟨piece, inText, spelling⟩ :=
    (takenFrom_of_locatedTokens read located member).exists_spelling spells
  exact allowed word forbidden (mentions_of_piece inText spelling)

end Querent.Sql

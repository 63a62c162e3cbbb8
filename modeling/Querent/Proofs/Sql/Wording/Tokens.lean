import Mathlib.Data.List.Chain
import Querent.Proofs.Sql.Spelling
import Querent.Proofs.Sql.Wording.Texts

/-!
# Innocent tokens

The tokens of an innocent text are innocent, except for quoted texts with escapes, since these are
read from the letters of the text without being a part of it.
-/

namespace Querent.Sql

/-- Whether a token is innocent, both what it stands for and what it is printed as. -/
def Token.Clean : Token → Prop
  | word w => Innocent w.text ∧ ∀ quote ∈ w.quote, isBreak quote = true
  | number digits long => Innocent (numberText digits long)
  | quoted form value => Innocent value ∧ Innocent (Literal.quoted form value).sql
  | dollarQuoted tag value => Innocent (dollarQuotedText tag value)
  | placeholder name => Innocent name
  | .symbol _ => True
  | stray c => Innocent (String.singleton c)

/-- Whether a list of partitions starts between two tokens. -/
def Token.opensPartitions (first second : Token) : Bool :=
  first.isKeyword "PARTITION" && second == .symbol .openParen

/--
Whether the tokens of a query can be printed without making up a forbidden word.  Decoded texts must
be innocent in themselves, and no list of partitions may follow the name of a table, since nothing
would be printed between the two.
-/
structure Reprintable (dialect : Dialect) (tokens : List Token) : Prop where
  decoded : ∀ form value, .quoted form value ∈ tokens → form = .escaped ∨ dialect = .mySql →
    Innocent value ∧ Innocent (Literal.quoted form value).sql
  undivided : dialect = .mySql ∨ dialect = .generic →
    tokens.IsChain fun first second => first.opensPartitions second = false

/-! ## Quoted texts -/

theorem isBreak_singleQuote : isBreak '\'' = true := by
  decide

theorem isBreak_doubleQuote : isBreak '"' = true := by
  decide

theorem innocent_quoted_sql {form : QuotedForm} {value : String} (plain : form ≠ .escaped)
    (innocent : Innocent value) : Innocent (Literal.quoted form value).sql := by
  cases form with
  | single => exact innocent_quoteText isBreak_singleQuote innocent
  | double => exact innocent_quoteText isBreak_doubleQuote innocent
  | escaped => exact absurd rfl plain
  | _ =>
      simp only [Literal.sql, QuotedForm.opening]
      refine (Opening.text ?_ innocent).clause ?_ <;> decide

theorem innocent_dollarQuotedText {tag : Option String} {value : String}
    (innocentTag : ∀ letters ∈ tag, Innocent letters) (innocent : Innocent value) :
    Innocent (dollarQuotedText tag value) := by
  have inner : Innocent (tag.getD "") := by
    cases tag with
    | none => exact innocent_empty
    | some letters => exact innocentTag letters rfl
  have sign : Joint "$" := by decide
  have mark : Joint ("$" ++ tag.getD "" ++ "$") :=
    { sign.clause inner |>.append sign.toClause, (sign.toOpening.text inner).joint sign with
      nonempty := by simp }
  exact (mark.toOpening.text innocent).clause mark.toClause

namespace Lexer

/-- What is read between quotes without escapes is parted by quotes only. -/
theorem blameless_quotedText {quote : Char} (breaks : isBreak quote = true)
    {front text value rest : List Char} (blameless : Blameless (front ++ text))
    (read : quotedText false quote text = some (value, rest)) : Blameless (front ++ value) := by
  fun_induction quotedText false quote text generalizing front value rest with
  | case1 => cases read
  | case2 c isQuote second after doubled ih =>
      obtain ⟨⟨inner, _⟩, readInner, same⟩ := Option.map_eq_some_iff.1 read
      cases same
      rw [beq_iff_eq] at isQuote doubled
      subst isQuote doubled
      obtain ⟨before, behind⟩ := (Blameless.append_cons_iff breaks).1 blameless
      refine (Blameless.append_cons_iff breaks).2 ⟨before, ?_⟩
      exact ih (show Blameless ([] ++ after) from (Blameless.cons_iff breaks).1 behind) readInner
  | case3 c isQuote second after single =>
      cases read
      rw [List.append_nil]
      exact blameless.of_infix (List.prefix_append _ _).isInfix
  | case4 c isQuote =>
      cases read
      rw [List.append_nil]
      exact blameless.of_infix (List.prefix_append _ _).isInfix
  | case5 c plain escapes => cases escapes
  | case6 c plain escapes => cases escapes
  | case7 c after plain unescaped ih =>
      obtain ⟨⟨inner, _⟩, readInner, same⟩ := Option.map_eq_some_iff.1 read
      cases same
      rw [List.append_cons] at blameless ⊢
      exact ih blameless readInner

theorem blameless_of_quotedText {quote : Char} (breaks : isBreak quote = true)
    {text value rest : List Char} (blameless : Blameless text)
    (read : quotedText false quote text = some (value, rest)) : Blameless value :=
  blameless_quotedText breaks (show Blameless ([] ++ text) from blameless) read

theorem isBreak_closingQuote {dialect : Dialect} {quote : Char}
    (opens : dialect.opensQuotedName quote = true) :
    isBreak quote = true ∧ isBreak (closingQuote quote) = true := by
  have marks : quote ∈ ['"', '`', '['] := by
    cases dialect <;> simp [Dialect.opensQuotedName] at opens <;> simp [opens] <;> tauto
  have all : ['"', '`', '['].all (fun mark => isBreak mark && isBreak (closingQuote mark)) = true := by
    decide
  exact Bool.and_eq_true_iff.1 (List.all_eq_true.1 all quote marks)

/-- A token that is taken from an innocent text is innocent, unless it was decoded. -/
theorem TakenFrom.clean {dialect : Dialect} {text : List Char} {token : Token}
    (taken : TakenFrom dialect text token) (blameless : Blameless text)
    (decoded : ∀ form value, token = .quoted form value → form = .escaped ∨ dialect = .mySql →
      Innocent value ∧ Innocent (Literal.quoted form value).sql) : token.Clean := by
  have part {letters : List Char} (inText : letters <:+: text) :
      Innocent (String.ofList letters) := by
    rw [Innocent, String.toList_ofList]
    exact blameless.of_infix inText
  cases taken with
  | word inText =>
      exact ⟨part inText, fun _ quoted => absurd quoted (Option.not_mem_none _)⟩
  | name opens inText read =>
      obtain ⟨opening, closing⟩ := isBreak_closingQuote opens
      refine ⟨?_, by rintro _ ⟨⟩; exact opening⟩
      show Blameless (String.ofList _).toList
      rw [String.toList_ofList]
      exact blameless_of_quotedText closing (blameless.of_infix inText) read
  | number _ inText => exact blameless.of_infix inText
  | @quoted form quote rest value after isMark inText read =>
      by_cases isDecoded : form = .escaped ∨ dialect = .mySql
      · exact decoded _ _ rfl isDecoded
      · rw [not_or] at isDecoded
        have breaks : isBreak quote = true := by
          rcases isMark with rfl | rfl
          · exact isBreak_singleQuote
          · exact isBreak_doubleQuote
        rw [decide_eq_false isDecoded.2] at read
        have innocent : Innocent (String.ofList value) := by
          rw [Innocent, String.toList_ofList]
          exact blameless_of_quotedText breaks (blameless.of_infix inText) read
        exact ⟨innocent, innocent_quoted_sql isDecoded.1 innocent⟩
  | escaped => exact decoded _ _ rfl (.inl rfl)
  | hex inText => exact ⟨part inText, innocent_quoted_sql (by simp) (part inText)⟩
  | dollarQuoted tagInText inText =>
      exact innocent_dollarQuotedText
        (fun letters isTag => blameless.of_infix (tagInText letters isTag)) (part inText)
  | placeholder inText => exact blameless.of_infix inText
  | symbol mark => trivial
  | stray inText =>
      rw [Token.Clean, Innocent, String.toList_singleton]
      exact blameless.of_infix inText

end Lexer

/-! ## What is known of clean tokens -/

theorem innocent_ident {name : Ident} (innocent : Innocent name.text)
    (breaks : ∀ quote ∈ name.quote, isBreak quote = true) : Innocent name.sql := by
  unfold Ident.sql
  split
  · exact innocent
  · refine (Opening.text ?_ innocent).clause ?_ <;> decide
  next text quote _ => exact innocent_quoteText (breaks quote rfl) innocent

namespace Token.Clean

theorem ident {word : Word} (clean : (Token.word word).Clean) : Innocent word.ident.sql :=
  innocent_ident clean.1 clean.2

theorem number_digits {digits : String} {long : Bool} (clean : (Token.number digits long).Clean) :
    Innocent digits := by
  cases long with
  | true => exact Innocent.left clean
  | false => exact clean

theorem text {token : Token} (clean : token.Clean) : Innocent token.text := by
  cases token with
  | word w =>
      obtain ⟨text, quote, keyword⟩ := w
      cases quote with
      | none => exact clean.1
      | some quote =>
          have opening : isBreak quote = true := clean.2 quote rfl
          have closing : isBreak (closingQuote quote) = true := by
            unfold closingQuote
            split
            · decide
            · exact opening
          exact ((joint_singleton opening).toOpening.text clean.1).clause
            (joint_singleton closing).toClause
  | quoted form value =>
      cases form <;> simp only [Token.text, QuotedForm.opening] <;>
        refine (Opening.text ?_ clean.1).clause ?_ <;> decide
  | symbol mark => exact innocent_symbol mark
  | _ => exact clean

end Token.Clean

/-! ## Plain tokens -/

/-- Whether tokens are harmless and clean and start no list of partitions where one is read. -/
structure Plain (dialect : Dialect) (tokens : List Located) : Prop where
  harmless : Harmless tokens
  clean : ∀ located ∈ tokens, located.token.Clean
  undivided : dialect = .mySql ∨ dialect = .generic →
    tokens.IsChain fun first second => first.token.opensPartitions second.token = false

instance (dialect : Dialect) : Lasts (Plain dialect) where
  suffix plain ends :=
    { harmless := Lasts.suffix plain.harmless ends
      clean := fun located member => plain.clean located (ends.subset member)
      undivided := fun divides => (plain.undivided divides).suffix ends }

theorem Plain.clean_head? {dialect : Dialect} {tokens : List Located} (plain : Plain dialect tokens) :
    ∀ token ∈ tokenOf tokens.head?, token.Clean := by
  cases tokens with
  | nil => simp [tokenOf]
  | cons located rest => simpa [tokenOf] using plain.clean located List.mem_cons_self

theorem plain_of_locatedTokens {dialect : Dialect} {text : String} {tokens : List Located}
    (read : locatedTokens dialect text = .ok tokens) (innocent : Innocent text)
    (reprintable : Reprintable dialect (tokens.map (·.token))) : Plain dialect tokens where
  harmless := harmless_of_locatedTokens read (forbiddenWord?_eq_none_iff.1 (innocent_iff.1 innocent))
  clean := by
    intro located member
    refine (takenFrom_of_locatedTokens read located member).clean innocent fun form value same => ?_
    exact reprintable.decoded form value (same ▸ List.mem_map_of_mem member)
  undivided := fun divides => (List.isChain_map _).1 (reprintable.undivided divides)

end Querent.Sql

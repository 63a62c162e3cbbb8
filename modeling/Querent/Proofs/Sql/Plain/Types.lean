import Querent.Proofs.Decimal.Digits
import Querent.Proofs.Sql.Plain.Calls

/-!
# Conversions to types

A type is known by its first word, which may have a size, a precision and a scale, or the word for
unsigned numbers behind it.  A conversion is spelled with the type in its parentheses.
-/

namespace Querent.Sql.Plain

open Querent.Sql.Parser

/-! ## Sizes -/

/-- The token that spells a size. -/
def sizeToken (n : Nat) : Token :=
  .number (toString n) false

section Sizes

variable {dialect : Dialect} {size : Nat} {context : Context} {later : List (Option Token)}

theorem toString_text (text : String) : toString text = text := rfl

theorem toList_toString (n : Nat) : (toString n).toList = Decimal.digits n := by
  rw [Nat.toString_eq_ofList_toDigits, String.toList_ofList]
  rfl

theorem numberOfDigits_toString (n : Nat) : numberOfDigits (toString n).toList = n := by
  rw [toList_toString]
  exact Decimal.ofDigits_digits n

theorem all_isAsciiDigit_toString (n : Nat) : (toString n).toList.all Text.isAsciiDigit = true := by
  rw [toList_toString, List.all_eq_true]
  exact fun c member => Decimal.isAsciiDigit_of_mem_digits member

theorem clear_size (n : Nat) : (Phrase.one false (sizeToken n)).Clear dialect := by
  have nonempty : (toString n).toList ≠ [] := by
    rw [toList_toString]
    exact List.length_pos_iff.1 (Decimal.length_digits_pos n)
  have number := isNumber_of_digits nonempty (all_isAsciiDigit_toString n)
  refine .one (fun following broken => ?_) (oneLine_of_isNumber number)
    (by simp [IsTame, sizeToken])
  have read := scans_number dialect number broken
  rwa [String.ofList_toList] at read

theorem understands_wholeNumber {n : Nat} (fits : n ≤ largestSize) {apart : Bool} :
    Understands size context later wholeNumber (.one apart (sizeToken n)) n := by
  refine .one fun position rest _ _ => ?_
  rw [wholeNumber, bind_of_ok next_eq]
  simp only [List.head?_cons, List.tail_cons, tokenOf_some, sizeToken, all_isAsciiDigit_toString,
    numberOfDigits_toString, fits, if_true]
  rfl

/-- The phrase of a size in parentheses, which may be left out. -/
def sizePhrase : Option Nat → Phrase
  | none => .plain []
  | some n => parens false (.one false (sizeToken n))

theorem legible_size (given : Option Nat) : (sizePhrase given).Legible dialect := by
  cases given with
  | none => exact .nothing
  | some n => exact Phrase.legible_parens false (clear_size n)

theorem text_size (given : Option Nat) :
    (sizePhrase given).text = (DataType.size given).toList := by
  cases given with
  | none => rfl
  | some n =>
      rw [sizePhrase, text_parens]
      simp [sizeToken, DataType.size, Token.text, numberText, toString_text]

variable {given : Option Nat}

theorem understands_optionalSize (fits : IsSize given)
    (noParen : some (.symbol .openParen) ∉ later) :
    Understands size context later optionalSize (sizePhrase given) given := by
  rw [optionalSize]
  cases given with
  | none => exact .skip (fun tokens ahead => symbol_of_ahead ahead noParen) .pure
  | some n =>
      refine Understands.symbol.step (List.Subset.refl _) ?_
      rw [if_pos rfl]
      refine (understands_wholeNumber (fits n rfl)).step (List.Subset.refl _) ?_
      exact Understands.expectSymbol.last rfl

theorem understands_optionalLength (fits : IsSize given)
    (noParen : some (.symbol .openParen) ∉ later) :
    Understands size context later optionalLength (sizePhrase given) (given, none) := by
  rw [optionalLength]
  cases given with
  | none => exact .skip (fun tokens ahead => symbol_of_ahead ahead noParen) .pure
  | some n =>
      have noUnit : ∀ word ∈ ["CHARACTERS", "OCTETS"],
          (some (Token.symbol .closeParen)).any (·.isKeyword word) = false := by decide
      refine Understands.symbol.step (List.Subset.refl _) ?_
      rw [if_pos rfl]
      refine (understands_wholeNumber (fits n rfl)).step (List.Subset.refl _) ?_
      refine .skip (fun tokens ahead => oneOf_of_ne fun word among => ?_) ?_
      · rw [List.mem_singleton.1 ahead]
        exact noUnit word among
      · exact Understands.expectSymbol.last rfl

/-- The phrase of a precision and a scale in parentheses. -/
def scalePhrase (precision scale : Nat) : Phrase :=
  parens false (.one false (sizeToken precision) ++
    (.one false (.symbol .comma) ++ .one false (sizeToken scale)))

theorem understands_precisionScale (fits : IsSize given)
    (noParen : some (.symbol .openParen) ∉ later) :
    Understands size context later optionalPrecisionScale (sizePhrase given) (given, none) := by
  rw [optionalPrecisionScale]
  cases given with
  | none => exact .skip (fun tokens ahead => symbol_of_ahead ahead noParen) .pure
  | some n =>
      refine Understands.symbol.step (List.Subset.refl _) ?_
      rw [if_pos rfl]
      refine (understands_wholeNumber (fits n rfl)).step (List.Subset.refl _) ?_
      refine .skip (fun tokens ahead => symbol_of_ne ?_) ?_
      · rw [List.mem_singleton.1 ahead]
        decide
      · simp only [Bool.false_eq_true, if_false, pure_bind]
        exact Understands.expectSymbol.last rfl

theorem understands_scale {precision scale : Nat} (fits : precision ≤ largestSize)
    (fitsScale : scale ≤ largestSize) :
    Understands size context later optionalPrecisionScale (scalePhrase precision scale)
      (some precision, some scale) := by
  rw [optionalPrecisionScale, scalePhrase, parens, Phrase.append_assoc, Phrase.append_assoc]
  refine Understands.symbol.step (List.Subset.refl _) ?_
  rw [if_pos rfl]
  refine (understands_wholeNumber fits).step (List.Subset.refl _) ?_
  refine Understands.symbol.step (List.Subset.refl _) ?_
  rw [if_pos rfl]
  refine ((understands_wholeNumber fitsScale).map some).step (List.Subset.refl _) ?_
  exact Understands.expectSymbol.last rfl

theorem legible_scale (precision scale : Nat) : (scalePhrase precision scale).Legible dialect :=
  Phrase.legible_parens false ((clear_size precision).append
    ⟨.cons (fun _ => scans_mark dialect _ (by decide)) (by decide) (by decide) (clear_size scale),
      by
        rintro _ ⟨⟩ more
        exact startsWith_cons.2 (by decide)⟩)

end Sizes

/-! ## Types -/

/-- The word that a type is known by. -/
def typeWord : DataType → Keyword
  | .plain name | .sized name _ | .integer name _ _ | .decimal name _ _ | .characters name _ _
  | .temporal name _ _ => name
  | _ => ""

/-- The phrase of what stands behind the word of a type. -/
def typeTail : DataType → Phrase
  | .sized _ size | .characters _ size _ | .temporal _ size _ | .decimal _ size none =>
    sizePhrase size
  | .decimal _ (some precision) (some scale) => scalePhrase precision scale
  | .integer _ width unsigned => sizePhrase width ++ .words (if unsigned then ["UNSIGNED"] else [])
  | _ => .plain []

/-- The phrase of a type. -/
def typePhrase (type : DataType) : Phrase :=
  .words [typeWord type] ++ typeTail type

section Types

variable {dialect : Dialect} {type : DataType} {size : Nat} {context : Context}

theorem typeWord_mem (isType : IsType type) : typeWord type ∈ typeWords := by
  have among : ∀ names ∈ ["DOUBLE" :: plainTypes, sizedTypes, integerTypes, decimalTypes,
      ["VARCHAR", "CHARACTER", "CHAR"], ["TIMESTAMP", "TIME"]], ∀ name ∈ names,
        name ∈ typeWords := by
    decide
  cases isType with
  | plain known => exact among _ (by decide) _ known
  | sized known fits => exact among _ (by decide) _ known
  | integer known fits unsigned => exact among _ (by decide) _ known
  | decimal known fits => exact among _ (by decide) _ known
  | scaled known fits fitsScale => exact among _ (by decide) _ known
  | characters known fits => exact among _ (by decide) _ known
  | temporal known fits => exact among _ (by decide) _ known

theorem isWord_typeWord (isType : IsType type) : IsWord (typeWord type).toList := by
  have areWords : ∀ name ∈ typeWords, IsWord name.toList := by decide
  exact areWords _ (typeWord_mem isType)

theorem ofSpelling?_typeWord (isType : IsType type) :
    Keyword.ofSpelling? (typeWord type).toList = some (typeWord type) := by
  have known : ∀ name ∈ typeWords, Keyword.ofSpelling? name.toList = some name := by decide
  exact known _ (typeWord_mem isType)

theorem legible_typeTail : (typeTail type).Legible dialect := by
  unfold typeTail
  split
  iterate 4 exact legible_size _
  · exact legible_scale _ _
  · rename_i unsigned
    refine (legible_size _).append (Phrase.legible_words ?_)
    cases unsigned <;> decide
  · exact .nothing

theorem text_type (isType : IsType type) :
    (typePhrase type).text = ' ' :: type.sql.toList := by
  rw [typePhrase, Phrase.text_append]
  cases isType with
  | plain known => simp [typeWord, typeTail, DataType.sql]
  | sized known fits => simp [typeWord, typeTail, DataType.sql, text_size]
  | integer known fits unsigned =>
      cases unsigned <;> simp [typeWord, typeTail, DataType.sql, text_size, onlyIf]
  | @decimal name known precision fits =>
      have printed :
          (DataType.decimal name precision none).sql = name ++ DataType.size precision := by
        cases precision <;> simp [DataType.sql]
      simp [typeWord, typeTail, printed, text_size]
  | scaled known fits fitsScale =>
      simp [typeWord, typeTail, DataType.sql, scalePhrase, text_parens, sizeToken, Token.text,
        numberText, Symbol.text, toString_text]
  | @characters name known length fits =>
      have printed : (DataType.characters name length none).sql = name ++ DataType.size length := by
        cases length <;> simp [DataType.sql, DataType.size, optionClause, toString_text,
          String.append_assoc]
      simp [typeWord, typeTail, printed, text_size]
  | temporal known fits => simp [typeWord, typeTail, DataType.sql, DataType.zone, text_size]

theorem understands_characterType {length : Option Nat} (fits : IsSize length) :
    Understands size context [some (.symbol .closeParen)] (characterType word) (sizePhrase length)
      (.characters word length none) := by
  have others : ∀ head ∈ (sizePhrase length).heads [some (.symbol .closeParen)],
      head.any (·.isKeyword "VARYING") = false ∧ head.any (·.isKeyword "LARGE") = false := by
    cases length with
    | none => decide
    | some n =>
        rw [sizePhrase, heads_parens]
        decide
  rw [characterType]
  refine .skip (fun tokens ahead => keyword_of_ne (others _ ahead).1) ?_
  rw [if_neg Bool.false_ne_true]
  refine .skip (fun tokens ahead => keywords_of_ne (others _ ahead).2) ?_
  rw [if_neg Bool.false_ne_true]
  exact (understands_optionalLength fits (by decide)).last rfl

/-- A type is known by its word. -/
theorem understands_knownType (isType : IsType type) :
    Understands size context [some (.symbol .closeParen)] (knownType (typeWord type))
      (typeTail type) (some type) := by
  have noParen : some (Token.symbol .openParen) ∉ [some (Token.symbol .closeParen)] := by decide
  have others : ∀ word ∈ ["PRECISION", "UNSIGNED", "WITH", "WITHOUT"],
      (some (Token.symbol .closeParen)).any (·.isKeyword word) = false := by decide
  have absent {word : Keyword} (among : word ∈ ["PRECISION", "UNSIGNED", "WITH", "WITHOUT"])
      {tokens : List Located} (ahead : Ahead [some (.symbol .closeParen)] tokens) :
      (tokenOf tokens.head?).any (·.isKeyword word) = false := by
    rw [List.mem_singleton.1 ahead]
    exact others word among
  cases isType with
  | @plain name known =>
      rcases List.mem_cons.1 known with rfl | known
      · refine .nothing fun tokens ahead => ?_
        exact bind_of_ok (keyword_of_ne (absent (by decide) ahead))
      · rw [typeWord, knownType_of_plain known]
        exact .pure
  | sized known fits =>
      rw [typeWord, knownType_of_sized known]
      exact (understands_optionalSize fits noParen).last rfl
  | @integer name known width fits unsigned =>
      rw [typeWord, knownType_of_integer known]
      have sized : Understands size context
          [some (.symbol .closeParen), some (keywordToken "UNSIGNED")] optionalSize
          (sizePhrase width) width := understands_optionalSize fits (by decide)
      refine sized.step ?_ ?_
      · cases unsigned <;> decide
      · cases unsigned with
        | false => exact .skip (fun tokens ahead => keyword_of_ne (absent (by decide) ahead)) .pure
        | true => exact (@Understands.keyword _ _ _ "UNSIGNED" true (by decide)).last rfl
  | decimal known fits =>
      rw [typeWord, knownType_of_decimal known]
      exact (understands_precisionScale fits noParen).last rfl
  | scaled known fits fitsScale =>
      rw [typeWord, knownType_of_decimal known]
      exact (understands_scale fits fitsScale).last rfl
  | characters known fits =>
      simp only [List.mem_cons, List.not_mem_nil, or_false] at known
      rcases known with rfl | rfl | rfl
      · exact (understands_optionalLength fits noParen).last rfl
      · exact (understands_characterType fits).map some
      · exact (understands_characterType fits).map some
  | temporal known fits =>
      simp only [List.mem_cons, List.not_mem_nil, or_false] at known
      rcases known with rfl | rfl
      all_goals
        refine (understands_optionalSize fits noParen).finish fun tokens ahead => ?_
        refine bind_of_ok (zone_of_ne fun word among => absent ?_ ahead)
        revert word
        decide

theorem cut_typePhrase : (typePhrase type).cut = none := by
  have sized (given : Option Nat) : (sizePhrase given).cut = none := by
    cases given <;> simp [sizePhrase]
  unfold typePhrase typeTail
  split <;> simp [sized, scalePhrase]

/-- A type with nothing behind it but a closing parenthesis is no array. -/
theorem understands_type {level : Nat} (isType : IsType type) :
    Understands size context [some (.symbol .closeParen)] (dataType (grammarOfDepth (level + 1)))
      (typePhrase type) type := by
  intro located rest few spelled
  obtain ⟨first, behind, rfl, _, spelledWord, spelledTail⟩ := spelled.split rfl
  obtain ⟨position, rfl⟩ := exists_of_map_eq_singleton spelledWord.same
  have uncut := @cut_typePhrase type
  have uncutTail := (Phrase.cut_append_eq_none_iff.1 uncut).2
  have ahead := spelledTail.ahead
  rw [Phrase.ends_of_uncut uncutTail] at ahead
  have noBracket : tokenOf rest.head? ≠ some (.symbol .openBracket) := by
    rw [List.mem_singleton.1 ahead]
    decide
  have read := (Phrase.gives_of_uncut uncutTail).1
    (@understands_knownType type behind.length context isType behind rest (Nat.le_refl _)
      spelledTail)
  have ruled := @typeRule_of_known context _ _ _ _ (grammarOfDepth level) (.plain _) position
    (ofSpelling?_typeWord isType) read noBracket
  rw [Phrase.gives_of_uncut uncut]
  exact bind_of_ok ruled

end Types

/-! ## Conversions -/

section Cast

variable {dialect : Dialect} {depth least : Nat} {operand : Expr} {type : DataType}
  {before : Bool → Phrase}

/-- The word for a conversion. -/
def castWord : Cast → Keyword
  | .cast => "CAST"
  | .tryCast => "TRY_CAST"
  | .safeCast => "SAFE_CAST"

theorem sql_cast (kind : Cast) :
    (Expr.cast kind operand type none).sql
      = kind.sql ++ "(" ++ operand.sql ++ " AS " ++ type.sql ++ "" ++ ")" := rfl

theorem spells_cast (kind : Cast) (isType : IsType type)
    (spells : Spells dialect depth 0 operand before) :
    Spells dialect (depth + 1) least (.cast kind operand type none) fun apart =>
      .one apart (keywordToken (castWord kind)) ++
        parens false (before false ++ (.words ["AS"] ++ typePhrase type)) where
  toFronts := by
    have known : castWord kind ∈ startWords := by cases kind <;> decide
    refine .lead (.word known) (fun apart => (Phrase.clear_keyword ?_ apart).append
      (Phrase.legible_parens false ((spells.clear false).append
        ((Phrase.legible_words (by decide)).append
          ((Phrase.legible_words ?_).append legible_typeTail))))) ?_ (by simp [opening]) ?_
      fun later _ => ?_
    · cases kind <;> decide
    · exact List.forall_mem_singleton.2 (isWord_typeWord isType)
    · cases kind <;> exact opens_of_plain (by decide) none
    · cases kind <;> exact fun same => absurd same (by decide)
    · rw [heads_parens]
      decide
  text := by
    intro apart
    have word : (keywordToken (castWord kind)).text = kind.sql := by cases kind <;> rfl
    rw [Phrase.text_append, Phrase.text_one, text_parens, Phrase.text_append, Phrase.text_append,
      text_type isType, spells.text, sql_cast, word]
    simp
  reaches := by
    intro size level context apart speaks enough room
    refine .of_rule (castRest (grammarOfDepth level) kind) (fun position tokens _ tame => ?_)
      fun fewer less => ?_
    · cases kind <;> exact (leadingWith_keyword (by decide) tame).trans (bind_congr_of_eq rfl)
    · refine .parenthesized fun count smaller => ?_
      obtain ⟨more, rfl⟩ : ∃ more, level = more + 1 := ⟨level - 1, by omega⟩
      have noFormat {tokens : List Located} (ahead : Ahead [some (.symbol .closeParen)] tokens) :
          castFormat context tokens = .ok (none, tokens) := by
        refine bind_of_ok (keyword_of_ne ?_)
        rw [List.mem_singleton.1 ahead]
        decide
      refine (spells.expr false speaks (by omega) room (List.Subset.refl _)).step ?_ ?_
      · rw [Phrase.heads_words_append]
        decide
      refine Understands.step (@Understands.expectKeyword _ _ _ "AS" true (by decide))
        (List.Subset.refl _) ?_
      exact (understands_type isType).finish fun tokens ahead => bind_of_ok (noFormat ahead)

end Cast

end Querent.Sql.Plain

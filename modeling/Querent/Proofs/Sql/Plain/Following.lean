import Querent.Proofs.Sql.Plain.Names

/-!
# Terms that start with an operand

Operations, tests and comparisons start with their left operand.  They are spelled by the phrase of
the operand with the operator and what is behind it, where the operator binds loosely enough to take
the whole operand and tightly enough to be read at all.
-/

namespace Querent.Sql.Plain

open Querent.Sql.Parser

/-! ## Canonical texts -/

section Printer

variable (left operand right : Expr) (negated : Bool)

theorem sql_binary (operator : BinaryOperator) :
    (Expr.binary left operator right).sql = left.sql ++ operator.between ++ right.sql := rfl

theorem sql_test (property : Test) :
    (Expr.test operand negated property).sql = operand.sql ++ property.sql negated := rfl

theorem sql_distinctFrom :
    (Expr.distinctFrom left negated right).sql
      = left.sql ++ " IS " ++ onlyIf negated "NOT " ++ "DISTINCT FROM " ++ right.sql := rfl

theorem sql_between (low high : Expr) :
    (Expr.between operand negated low high).sql
      = operand.sql ++ onlyIf negated " NOT" ++ " BETWEEN " ++ low.sql ++ " AND " ++ high.sql := rfl

theorem sql_matching (kind : Match) (pattern : Expr) :
    (Expr.matching operand negated kind pattern none).sql
      = operand.sql ++ onlyIf negated " NOT" ++ " " ++ kind.sql ++ " " ++ pattern.sql ++ "" := rfl

end Printer

/-! ## An operand and more -/

section Extend

variable {dialect : Dialect} {depth least precedence : Nat} {operand value : Expr}
  {before : Bool → Phrase} {inner : Phrase}

/-- An operand is spelled with an operator and what follows it. -/
theorem Spells.extend {pieces : List Piece} (spells : Spells dialect depth least operand before)
    (next : Nat → Parser Expr) (filled : pieces ≠ []) (same : opening value = opening operand)
    (text : operand.sql.toList ++ (Phrase.plain pieces ++ inner).text = value.sql.toList)
    (legible : (Phrase.plain pieces ++ inner).Legible dialect) (tight : least < precedence)
    (loose : ∀ later, (Phrase.plain pieces ++ inner).heads later ⊆ looser (edge operand))
    (binds : ∀ context located tokens, located.map (·.token) = pieces.map (·.token) →
      nextPrecedence context (located ++ tokens) = .ok (precedence, located ++ tokens))
    (leads : ∀ level context located, located.map (·.token) = pieces.map (·.token) → ∀ tokens,
      Ahead (inner.heads (looser (edge value))) tokens →
        followingRule (grammarOfDepth level) (intervalRule (grammarOfDepth level)) operand
          precedence context (located ++ tokens) = next level context tokens)
    (understands : ∀ size level context, context.dialect = dialect → 8 * size < level →
      depth ≤ context.budget →
        Understands size context (looser (edge value)) (next level) inner value) :
    Spells dialect depth least value fun apart => before apart ++ (.plain pieces ++ inner) where
  toFronts := by
    rw [same]
    refine spells.toFronts.append legible fun later _ member => ?_
    exact absurd (looser_subset_followers (loose later member)) (by decide)
  text := by
    intro apart
    rw [Phrase.text_append, spells.text, List.append_assoc, text]
  reaches := by
    intro size level context apart speaks enough room
    refine (spells.reaches size level context apart speaks enough room).following filled (loose _)
      (fun located spelled tokens steps => ?_)
      (.leading (next level) filled (fun located spelled tokens ahead _ =>
        leads level context located spelled tokens ahead) fun fewer less =>
          understands fewer level context speaks (by omega) room)
    rw [operatorsRule, operatorsUpTo, bind_of_ok (binds context located tokens spelled)]
    simp only [ge_iff_le, Nat.not_le.2 tight, if_false]
    rfl

/-- Words may be all that an operator consists of. -/
theorem Spells.extendWords {words : List Keyword}
    (spells : Spells dialect depth least operand before) (next : Nat → Parser Expr)
    (filled : words ≠ []) (areWords : ∀ word ∈ words, IsWord word.toList)
    (same : opening value = opening operand)
    (text : operand.sql.toList ++ (Phrase.words words ++ inner).text = value.sql.toList)
    (legible : inner.Legible dialect) (tight : least < precedence)
    (loose : ∀ word ∈ words.head?, some (keywordToken word) ∈ looser (edge operand))
    (binds : ∀ context located tokens, located.map (·.token) = words.map keywordToken →
      nextPrecedence context (located ++ tokens) = .ok (precedence, located ++ tokens))
    (leads : ∀ level context located, located.map (·.token) = words.map keywordToken → ∀ tokens,
      Ahead (inner.heads (looser (edge value))) tokens →
        followingRule (grammarOfDepth level) (intervalRule (grammarOfDepth level)) operand
          precedence context (located ++ tokens) = next level context tokens)
    (understands : ∀ size level context, context.dialect = dialect → 8 * size < level →
      depth ≤ context.budget →
        Understands size context (looser (edge value)) (next level) inner value) :
    Spells dialect depth least value fun apart => before apart ++ (.words words ++ inner) := by
  refine spells.extend next (fun nothing => filled (List.map_eq_nil_iff.1 nothing)) same text
    ((Phrase.legible_words areWords).append legible) tight (fun later => ?_)
    (fun context located tokens spelled => binds context located tokens ?_)
    (fun level context located spelled => leads level context located ?_) understands
  · cases words with
    | nil => contradiction
    | cons word others =>
        show (Phrase.words (word :: others) ++ inner).heads later ⊆ _
        rw [Phrase.heads_words_append]
        exact List.cons_subset.2 ⟨loose word rfl, List.nil_subset _⟩
  all_goals
    rw [List.map_map] at spelled
    exact spelled

end Extend

section Words

variable {negated : Bool} {words : List Keyword}

theorem isWord_negatable (areWords : ∀ word ∈ words, IsWord word.toList) :
    ∀ word ∈ negatable negated words, IsWord word.toList := by
  cases negated with
  | false => exact areWords
  | true => exact List.forall_mem_cons.2 ⟨by decide, areWords⟩

theorem text_words_negatable :
    (Phrase.words (negatable negated words)).text
      = (onlyIf negated " NOT").toList ++ (Phrase.words words).text := by
  cases negated with
  | false => rfl
  | true => simp [negatable, onlyIf]

/-- A comparison may follow an operand that ends tightly enough. -/
theorem negatable_mem_looser {word : Keyword} {others : List Keyword} {bound : Nat}
    (known : word ∈ comparisonWords)
    (loose : (if negated then rangePrecedence else binding (some (keywordToken word))) ≤ bound) :
    ∀ first ∈ (negatable negated (word :: others)).head?,
      some (keywordToken first) ∈ looser bound := by
  cases negated with
  | false =>
      rintro _ ⟨⟩
      exact comparison_mem_looser known loose
  | true =>
      rintro _ ⟨⟩
      exact comparison_mem_looser (by decide) loose

end Words

/-! ## Operations -/

section Spells

variable {dialect : Dialect} {depth least : Nat} {left right operand : Expr}
  {before behind : Bool → Phrase}

theorem scans_operator {operator : BinaryOperator} (known : operator ∈ operators)
    {rest : List Char} : Scans dialect (operatorToken operator) (' ' :: rest) := by
  simp only [operators, List.mem_cons, List.not_mem_nil, or_false] at known
  rcases known with rfl | rfl | rfl | rfl | rfl | rfl | rfl | rfl | rfl | rfl | rfl | rfl | rfl |
    rfl | rfl | rfl | rfl | rfl | rfl | rfl | rfl | rfl | rfl
  iterate 3 exact scans_keyword dialect (by decide) (startsWith_cons.2 (by decide))
  all_goals exact scans_symbol dialect (by decide)

/-- An operator is written between blanks. -/
theorem legible_operator {operator : BinaryOperator} (known : operator ∈ operators)
    (spells : Spells dialect depth least right behind) :
    (Phrase.one true (operatorToken operator) ++ behind true).Legible dialect := by
  have plain : ∀ operator ∈ operators, '\n' ∉ (operatorToken operator).text.toList ∧
      IsTame (operatorToken operator) := by
    intro operator known
    simp only [operators, List.mem_cons, List.not_mem_nil, or_false] at known
    rcases known with rfl | rfl | rfl | rfl | rfl | rfl | rfl | rfl | rfl | rfl | rfl | rfl | rfl |
      rfl | rfl | rfl | rfl | rfl | rfl | rfl | rfl | rfl | rfl
    iterate 3 exact ⟨Phrase.oneLine_keyword (by decide), isTame_word _⟩
    all_goals exact ⟨by decide, by decide⟩
  refine .apart (.cons (fun following => ?_) (plain operator known).1 (plain operator known).2
    (spells.clear true))
  rw [spells.text_true]
  exact scans_operator known

theorem text_operator {operator : BinaryOperator} (known : operator ∈ operators) :
    operator.between.toList = (Phrase.one true (operatorToken operator)).text ++ [' '] := by
  simp only [operators, List.mem_cons, List.not_mem_nil, or_false] at known
  rcases known with rfl | rfl | rfl | rfl | rfl | rfl | rfl | rfl | rfl | rfl | rfl | rfl | rfl |
    rfl | rfl | rfl | rfl | rfl | rfl | rfl | rfl | rfl | rfl <;> rfl

theorem spells_binary {operator : BinaryOperator} (known : operator ∈ operators)
    (tight : least < precedenceOf operator) (loose : precedenceOf operator ≤ edge left)
    (spellsLeft : Spells dialect depth least left before)
    (spellsRight : Spells dialect depth (precedenceOf operator) right behind) :
    Spells dialect depth least (.binary left operator right) fun apart =>
      before apart ++ (.one true (operatorToken operator) ++ behind true) := by
  refine spellsLeft.extend
    (fun level => (grammarOfDepth level).operand (precedenceOf operator) >>= fun right =>
      pure (.binary left operator right))
    (List.cons_ne_nil _ _) rfl ?_ (legible_operator known spellsRight) tight (fun later => ?_)
    (fun context located tokens spelled => ?_)
    (fun level context located spelled tokens ahead => ?_)
    fun size level context speaks enough room => ?_
  · rw [Phrase.text_append, spellsRight.text_true, sql_binary, String.toList_append,
      String.toList_append, text_operator known]
    simp [Piece.text]
  · show (Phrase.one true (operatorToken operator) ++ behind true).heads later ⊆ _
    rw [Phrase.heads_one_append]
    exact List.cons_subset.2 ⟨operator_mem_looser known loose, List.nil_subset _⟩
  · obtain ⟨position, rfl⟩ := exists_of_map_eq_singleton spelled
    exact nextPrecedence_of_operator known
  · obtain ⟨position, rfl⟩ := exists_of_map_eq_singleton spelled
    exact followingRule_of_operator known (spellsRight.heads true _ _ ahead)
  · show Understands size context (looser (min (precedenceOf operator) (edge right))) _ _ _
    rw [Nat.min_comm]
    exact (spellsRight.operand true speaks enough room).last rfl

/-! ## Tests -/

theorem text_test (negated : Bool) (property : Test) :
    (property.sql negated).toList
      = (Phrase.words ("IS" :: negatable negated [testWord property])).text := by
  cases negated <;> cases property <;> rfl

theorem spells_test (negated : Bool) (property : Test) (tight : least < testPrecedence)
    (loose : testPrecedence ≤ edge operand)
    (spells : Spells dialect depth least operand before) :
    Spells dialect depth least (.test operand negated property) fun apart =>
      before apart ++ (.words ("IS" :: negatable negated [testWord property]) ++ .plain []) := by
  refine spells.extendWords (fun _ => pure (.test operand negated property))
    (List.cons_ne_nil _ _) ?_ rfl ?_ .nothing tight ?_ (fun context located tokens spelled => ?_)
    (fun level context located spelled tokens ahead => ?_)
    fun size level context speaks enough room => ?_
  · refine List.forall_mem_cons.2 ⟨by decide, isWord_negatable ?_⟩
    cases property <;> decide
  · rw [Phrase.append_nil, sql_test, String.toList_append, text_test]
  · rintro _ ⟨⟩
    exact comparison_mem_looser (by decide) loose
  · obtain ⟨position, behind, rfl, _⟩ := exists_of_map_eq_cons spelled
    exact nextPrecedence_of_test
  · obtain ⟨position, behind, rfl, words⟩ := exists_of_map_eq_cons spelled
    exact followingRule_of_test.trans (isRest_of_words words)
  · exact .pure

theorem isRest_of_distinct {grammar : Grammar} {context : Context} {tokens located : List Located}
    {negated : Bool}
    (spelled : located.map (·.token)
      = (negatable negated ["DISTINCT", "FROM"]).map keywordToken) :
    isRest grammar operand context (located ++ tokens)
      = (grammar.expr >>= fun right => pure (.distinctFrom operand negated right)) context
        tokens := by
  obtain ⟨_, _, rfl, words, ⟨rfl, rfl⟩ | ⟨rfl, before, rfl⟩⟩ := exists_of_map_eq_negatable spelled
  all_goals
    obtain ⟨first, _, rfl, others⟩ := exists_of_map_eq_cons words
    obtain ⟨position, rfl⟩ := exists_of_map_eq_singleton others
    rfl

/-- What is behind a test for difference is read as a whole, so nothing but a clause follows it. -/
theorem spells_distinctFrom (negated : Bool) (tight : least < testPrecedence)
    (loose : testPrecedence ≤ edge left) (spellsLeft : Spells dialect (depth + 1) least left before)
    (spellsRight : Spells dialect depth 0 right behind) :
    Spells dialect (depth + 1) least (.distinctFrom left negated right) fun apart =>
      before apart ++ (.words ("IS" :: negatable negated ["DISTINCT", "FROM"]) ++
        behind true) := by
  have closed : looser 0 ⊆ closers := by decide
  refine spellsLeft.extendWords
    (fun level => (grammarOfDepth level).expr >>= fun right =>
      pure (.distinctFrom left negated right))
    (List.cons_ne_nil _ _) ?_ rfl ?_ spellsRight.legible tight ?_
    (fun context located tokens spelled => ?_)
    (fun level context located spelled tokens ahead => ?_)
    fun size level context speaks enough room => ?_
  · exact List.forall_mem_cons.2 ⟨by decide, isWord_negatable (by decide)⟩
  · rw [Phrase.text_append, spellsRight.text_true, sql_distinctFrom]
    cases negated <;> simp [negatable, onlyIf]
  · rintro _ ⟨⟩
    exact comparison_mem_looser (by decide) loose
  · obtain ⟨position, behind, rfl, _⟩ := exists_of_map_eq_cons spelled
    exact nextPrecedence_of_test
  · obtain ⟨position, behind, rfl, words⟩ := exists_of_map_eq_cons spelled
    exact followingRule_of_test.trans (isRest_of_distinct words)
  · exact (spellsRight.expr true speaks enough room closed).last rfl

/-! ## Comparisons with ranges and patterns -/

theorem understands_rangeRest {negated : Bool} {low high : Expr}
    {lowPhrase highPhrase : Bool → Phrase} {size level : Nat} {context : Context}
    (spellsLow : Spells dialect depth rangePrecedence low lowPhrase)
    (spellsHigh : Spells dialect depth rangePrecedence high highPhrase)
    (looseLow : precedenceOf (.keyword "AND") ≤ edge low) (speaks : context.dialect = dialect)
    (enough : 8 * size < level) (room : depth ≤ context.budget) :
    Understands size context (looser (min (edge high) rangePrecedence))
      (rangeRest (grammarOfDepth level) operand negated)
      (lowPhrase true ++ (.words ["AND"] ++ highPhrase true))
      (.between operand negated low high) := by
  refine (spellsLow.operand true speaks enough room).step ?_ ?_
  · have follows : some (keywordToken "AND") ∈ looser (min (edge low) rangePrecedence) :=
      @operator_mem_looser _ (.keyword "AND") (by decide) (Nat.le_min.2 ⟨looseLow, by decide⟩)
    rw [Phrase.heads_words_append]
    exact List.cons_subset.2 ⟨follows, List.nil_subset _⟩
  · refine Understands.step (@Understands.expectKeyword _ _ _ "AND" true (by decide))
      (List.Subset.refl _) ?_
    exact (spellsHigh.operand true speaks enough room).last rfl

theorem spells_between {low high : Expr} {lowPhrase highPhrase : Bool → Phrase} (negated : Bool)
    (tight : least < rangePrecedence) (loose : rangePrecedence ≤ edge operand)
    (looseLow : precedenceOf (.keyword "AND") ≤ edge low)
    (spells : Spells dialect depth least operand before)
    (spellsLow : Spells dialect depth rangePrecedence low lowPhrase)
    (spellsHigh : Spells dialect depth rangePrecedence high highPhrase) :
    Spells dialect depth least (.between operand negated low high) fun apart =>
      before apart ++ (.words (negatable negated ["BETWEEN"]) ++
        (lowPhrase true ++ (.words ["AND"] ++ highPhrase true))) := by
  refine spells.extendWords (fun level => rangeRest (grammarOfDepth level) operand negated) ?_
    (isWord_negatable (by decide)) rfl ?_ ?_ tight (negatable_mem_looser (by decide) ?_)
    (fun context located tokens spelled => nextPrecedence_of_range (by decide) spelled)
    (fun level context located spelled tokens ahead =>
      (followingRule_of_negatable (by decide) spelled).trans (comparisonRest_of_between spelled))
    fun size level context speaks enough room => ?_
  · cases negated <;> simp [negatable]
  · rw [Phrase.text_append, text_words_negatable, sql_between]
    simp [spellsLow.text_true, spellsHigh.text_true]
  · exact spellsLow.legible.append ((Phrase.legible_words (by decide)).append spellsHigh.legible)
  · cases negated <;> exact loose
  · show Understands size context (looser (min rangePrecedence (edge high))) _ _ _
    rw [Nat.min_comm]
    exact understands_rangeRest spellsLow spellsHigh looseLow speaks enough room

theorem understands_matchingRest {negated : Bool} {kind : Match} {pattern : Expr}
    {size level : Nat} {context : Context}
    (spells : Spells dialect depth patternPrecedence pattern behind)
    (speaks : context.dialect = dialect) (enough : 8 * size < level)
    (room : depth ≤ context.budget) :
    Understands size context (looser (min (edge pattern) patternPrecedence))
      (matchingRest (grammarOfDepth level) operand negated kind) (behind true)
      (.matching operand negated kind pattern none) := by
  have noEscape : ∀ head ∈ followers, head.any (·.isKeyword "ESCAPE") = false := by decide
  refine (spells.operand true speaks enough room).finish fun tokens ahead => ?_
  have other := noEscape _ (looser_subset_followers ahead)
  cases kind with
  | regexp => rfl
  | rlike => rfl
  | _ => exact bind_of_ok (after_of_ne other)

theorem text_matchWords (kind : Match) :
    (Phrase.words (matchWords kind)).text = ' ' :: kind.sql.toList := by
  cases kind <;> rfl

theorem spells_matching {pattern : Expr} (negated : Bool) (kind : Match)
    (tight : least < patternPrecedence)
    (loose : (if negated then rangePrecedence else patternPrecedence) ≤ edge operand)
    (spells : Spells dialect depth least operand before)
    (spellsPattern : Spells dialect depth patternPrecedence pattern behind) :
    Spells dialect depth least (.matching operand negated kind pattern none) fun apart =>
      before apart ++ (.words (negatable negated (matchWords kind)) ++ behind true) := by
  obtain ⟨word, words, same, known, binds⟩ : ∃ word words, matchWords kind = word :: words ∧
      word ∈ ["LIKE", "ILIKE", "SIMILAR", "REGEXP", "RLIKE"] ∧
      binding (some (keywordToken word)) = patternPrecedence := by
    cases kind
    all_goals exact ⟨_, _, rfl, by decide, rfl⟩
  refine spells.extendWords (fun level => matchingRest (grammarOfDepth level) operand negated kind)
    ?_ (isWord_negatable ?_) rfl ?_ spellsPattern.legible tight ?_
    (fun context located tokens spelled => nextPrecedence_of_match spelled)
    (fun level context located spelled tokens ahead => ?_)
    fun size level context speaks enough room => ?_
  · cases negated <;> simp [negatable, same]
  · cases kind <;> decide
  · rw [Phrase.text_append, text_words_negatable, text_matchWords, sql_matching]
    simp [spellsPattern.text_true]
  · rw [same]
    refine negatable_mem_looser (List.mem_cons_of_mem _ (List.mem_cons_of_mem _
      (List.mem_cons_of_mem _ (List.mem_cons_of_mem _ known)))) ?_
    rw [binds]
    exact loose
  · refine Eq.trans ?_ (comparisonRest_of_match spelled)
    rw [same] at spelled
    exact followingRule_of_negatable (List.mem_cons_of_mem _ (List.mem_cons_of_mem _ known)) spelled
  · show Understands size context (looser (min patternPrecedence (edge pattern))) _ _ _
    rw [Nat.min_comm]
    exact understands_matchingRest spellsPattern speaks enough room

end Spells

end Querent.Sql.Plain

import Querent.Proofs.Sql.Plain.Types

/-!
# Queries inside expressions

A query in parentheses may be a value, the list of a membership test, or what an existence test asks
for.  Where an expression might stand in the parentheses as well, the first word of the query tells
that there is none.
-/

namespace Querent.Sql.Plain

open Querent.Sql.Parser

/-! ## Spelling a query -/

/-- What may follow a query. -/
def queryEnds : List (Option Token) :=
  [none, some (.symbol .semicolon), some (.symbol .closeParen)]

/-- The tokens that may start a plain query. -/
def queryStarts : List Token :=
  [keywordToken "SELECT", keywordToken "WITH", .symbol .openParen]

/-- How a query is written, with or without a blank before it, and that it is read as a whole. -/
structure SpellsQuery (dialect : Dialect) (depth : Nat) (query : Query) (phrase : Bool → Phrase) :
    Prop where
  clear : ∀ apart, (phrase apart).Clear dialect
  starts : ∃ token ∈ queryStarts, (IsTold query → token ≠ .symbol .openParen) ∧
    ∀ apart, ∃ rest, phrase apart = .one apart token ++ rest
  text : ∀ apart, (phrase apart).text = (if apart then [' '] else []) ++ query.sql.toList
  reads : ∀ size level context apart later, context.dialect = dialect → 8 * size + 3 ≤ level →
    depth ≤ context.budget → later ⊆ queryEnds →
      Understands size context later (grammarOfDepth level).query (phrase apart) query

section Spells

variable {dialect : Dialect} {depth least : Nat} {operand : Expr} {query : Query}
  {before inner : Bool → Phrase} {size level : Nat} {context : Context} {grammar : Grammar}
  {tokens : List Located} {later : List (Option Token)}

theorem SpellsQuery.ahead (spells : SpellsQuery dialect depth query inner) {apart : Bool}
    (ahead : Ahead ((inner apart).heads later) tokens) :
    ∃ token ∈ queryStarts, (IsTold query → token ≠ .symbol .openParen) ∧
      tokenOf tokens.head? = some token := by
  obtain ⟨token, among, told, starts⟩ := spells.starts
  obtain ⟨rest, same⟩ := starts apart
  rw [same, Phrase.heads_one_append] at ahead
  exact ⟨token, among, told, List.mem_singleton.1 ahead⟩

theorem SpellsQuery.no_period (spells : SpellsQuery dialect depth query inner) {apart : Bool} :
    some (.symbol .period) ∉ (inner apart).heads later := by
  intro member
  obtain ⟨token, among, _, starts⟩ := spells.starts
  obtain ⟨rest, same⟩ := starts apart
  rw [same, Phrase.heads_one_append] at member
  have others : ∀ token ∈ queryStarts, some (Token.symbol .period) ≠ some token := by decide
  exact others token among (List.mem_singleton.1 member)

/-- Where a query may be expected, one is told by its first word. -/
theorem SpellsQuery.queryAhead (spells : SpellsQuery dialect depth query inner)
    (told : IsTold query) {apart : Bool} (ahead : Ahead ((inner apart).heads later) tokens) :
    queryAhead grammar context tokens
      = (grammar.query >>= fun query => pure (some query)) context tokens := by
  obtain ⟨token, among, notParen, same⟩ := spells.ahead ahead
  have words : ∀ token ∈ queryStarts, token = .symbol .openParen ∨
      token = keywordToken "SELECT" ∨ token = keywordToken "WITH" := by decide
  cases tokens with
  | nil => cases same
  | cons located rest =>
      obtain ⟨found, position⟩ := located
      cases same
      rcases words found among with rfl | rfl | rfl
      · exact absurd rfl (notParen told)
      · rfl
      · rfl

/-- A query in parentheses is read inside them. -/
theorem SpellsQuery.inParens (spells : SpellsQuery dialect depth query inner) (apart : Bool)
    (speaks : context.dialect = dialect) (enough : 8 * size ≤ level)
    (room : depth ≤ context.budget) :
    Understands size context later (queryInParens (grammarOfDepth level))
      (parens apart (inner false)) query :=
  .parenthesized fun fewer less =>
    spells.reads fewer level context false _ speaks (by omega) room (by decide)

/-! ## Values -/

theorem sql_query : (Expr.query query).sql = "(" ++ query.sql ++ ")" := rfl

theorem spells_query (told : IsTold query) (spells : SpellsQuery dialect depth query inner) :
    Spells dialect depth least (.query query) fun apart => parens apart (inner false) where
  toFronts := fronts_parens (spells.clear false) spells.no_period
  text := by
    intro apart
    rw [text_parens, spells.text, sql_query]
    simp
  reaches := by
    intro size level context apart speaks enough room
    refine .of_rule (parenRest (grammarOfDepth level)) (fun _ _ _ _ => leadingRule_of_paren)
      fun fewer less => ?_
    have read : Understands fewer context (looser productPrecedence)
        ((grammarOfDepth level).query >>= fun query => parenEnd (.query query))
        (inner false ++ .one false (.symbol .closeParen)) (.query query) :=
      (spells.reads fewer level context false closing speaks (by omega) room (by decide)).step
        (List.Subset.refl _) understands_parenEnd
    refine read.congr fun tokens ahead _ => ?_
    rw [Phrase.heads_append] at ahead
    unfold parenRest
    rw [bind_congr_of_eq (spells.queryAhead told ahead), bind_assoc]
    rfl

/-! ## Membership tests -/

theorem sql_inQuery (negated : Bool) :
    (Expr.inQuery operand negated query).sql
      = operand.sql ++ onlyIf negated " NOT" ++ " IN (" ++ query.sql ++ ")" := rfl

theorem spells_inQuery (negated : Bool) (tight : least < rangePrecedence)
    (loose : rangePrecedence ≤ edge operand) (told : IsTold query)
    (spells : Spells dialect depth least operand before)
    (spellsQuery : SpellsQuery dialect depth query inner) :
    Spells dialect depth least (.inQuery operand negated query) fun apart =>
      before apart ++ (.words (negatable negated ["IN"]) ++ parens true (inner false)) := by
  refine spells.extendWords (fun level => inRest (grammarOfDepth level) operand negated) ?_
    (isWord_negatable (by decide)) rfl ?_ (Phrase.legible_parens true (spellsQuery.clear false))
    tight (negatable_mem_looser (by decide) ?_)
    (fun context located tokens spelled => nextPrecedence_of_range (by decide) spelled)
    (fun level context located spelled tokens ahead =>
      (followingRule_of_negatable (by decide) spelled).trans (comparisonRest_of_in spelled))
    fun size level context speaks enough room => ?_
  · cases negated <;> simp [negatable]
  · rw [Phrase.text_append, text_words_negatable, text_parens, spellsQuery.text, sql_inQuery]
    simp
  · cases negated <;> exact loose
  · refine Understands.congr (.parenthesized fun fewer less => ?_) fun tokens ahead _ =>
      inRest_of_paren (List.mem_singleton.1 (heads_parens true _ ▸ ahead))
    refine Understands.congr ((spellsQuery.reads fewer level context false
      [some (.symbol .closeParen)] speaks (by omega) room (by decide)).map
        fun query => Expr.inQuery operand negated query) fun tokens ahead _ => ?_
    rw [bind_congr_of_eq (spellsQuery.queryAhead told ahead), bind_assoc]
    rfl

/-! ## Existence tests -/

theorem sql_exists (negated : Bool) :
    (Expr.exists negated query).sql = onlyIf negated "NOT " ++ "EXISTS (" ++ query.sql ++ ")" := rfl

/-- The phrase of an existence test. -/
def existsPhrase (negated : Bool) (inner : Bool → Phrase) (apart : Bool) : Phrase :=
  if negated then
    .one apart (keywordToken "NOT") ++ (.one true (keywordToken "EXISTS") ++
      parens true (inner false))
  else .one apart (keywordToken "EXISTS") ++ parens true (inner false)

theorem fronts_exists (negated : Bool) (spells : SpellsQuery dialect depth query inner) :
    Fronts dialect (opening (.exists negated query)) (existsPhrase negated inner) := by
  have behind : (parens true (inner false)).Legible dialect :=
    Phrase.legible_parens true (spells.clear false)
  cases negated with
  | false =>
      refine .lead (.word (by decide)) (fun apart => (Phrase.clear_keyword (by decide) apart).append
        behind) (opens_of_plain (by decide) _) (fun found same => Option.some.inj same)
        (fun _ => rfl) fun later _ => ?_
      rw [heads_parens]
      decide
  | true =>
      refine .lead (.word (by decide)) (fun apart => (Phrase.clear_keyword (by decide) apart).append
        ((Phrase.legible_keyword (by decide)).append behind)) (opens_of_plain (by decide) _)
        (by simp [opening]) (fun same => absurd same (by decide)) fun later _ => ?_
      rw [Phrase.heads_one_append]
      decide

theorem spells_exists (negated : Bool) (spells : SpellsQuery dialect depth query inner) :
    Spells dialect depth least (.exists negated query) (existsPhrase negated inner) where
  toFronts := fronts_exists negated spells
  text := by
    intro apart
    rw [sql_exists]
    cases negated <;> simp [existsPhrase, text_parens, spells.text, onlyIf]
  reaches := by
    intro size level context apart speaks enough room
    have free (word : Keyword) (known : word ∈ ["EXISTS", "NOT"]) :
        ∀ known ∈ typeWords, (Word.plain word.toList).keyword ≠ some known := by
      revert word
      decide
    have read (size : Nat) (enough : 8 * size ≤ level) : Understands size context
        (looser productPrecedence) (queryInParens (grammarOfDepth level) >>= fun query =>
          pure (Expr.exists negated query)) (parens true (inner false))
        (Expr.exists negated query) :=
      (spells.inParens true speaks enough room).last rfl
    cases negated with
    | false =>
        refine .of_rule (queryInParens (grammarOfDepth level) >>= fun query =>
          pure (Expr.exists false query)) (fun position tokens _ tame => ?_)
          fun fewer less => read fewer (by omega)
        exact (leadingWith_keyword (free "EXISTS" (by decide)) tame).trans (bind_congr_of_eq rfl)
    | true =>
        refine .of_rule (negationRest (grammarOfDepth level)) (fun position tokens _ tame => ?_)
          fun fewer less => ?_
        · exact (leadingWith_keyword (free "NOT" (by decide)) tame).trans (bind_congr_of_eq rfl)
        · exact (@Understands.keyword _ _ _ "EXISTS" true (by decide)).step (List.Subset.refl _)
            (read fewer (by omega))

end Spells

end Querent.Sql.Plain

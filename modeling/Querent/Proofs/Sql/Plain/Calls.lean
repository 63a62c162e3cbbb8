import Querent.Proofs.Sql.Plain.Groups

/-!
# Calls

Where an expression may stand, a wildcard may often stand as well, with or without the name of a
table before it.  At the tokens of a plain term these places come down to expressions, and a call
comes down to its arguments.
-/

namespace Querent.Sql.Plain

open Querent.Sql.Parser

/-! ## Terms in the place of wildcards -/

section Wildcards

variable {grammar : Grammar} {context : Context} {tokens : List Located} {size : Nat}
  {later : List (Option Token)} {phrase : Bool → Phrase} {value : Expr} {dialect : Dialect}
  {first : Option Token} {apart : Bool}

theorem head_map_token (tokens : List Located) :
    (tokens.map (·.token)).head? = tokenOf tokens.head? := by
  rw [List.head?_map]
  rfl

/-- Names that end without a wildcard are no name of a table before one. -/
theorem wildcardPathUpTo_of_pathEnds (ends : PathEnds (tokens.map (·.token))) (steps : Nat)
    (path : List Ident) :
    ∃ rest, wildcardPathUpTo steps path context tokens = .ok (none, rest) := by
  induction steps generalizing tokens path with
  | zero => exact ⟨tokens, rfl⟩
  | succ steps ih =>
      rw [wildcardPathUpTo]
      unfold PathEnds at ends
      split at ends
      · rename_i name _ same
        obtain ⟨period, _, rfl, others⟩ := exists_of_map_eq_cons same
        obtain ⟨position, rest, rfl, rfl⟩ := exists_of_map_eq_cons others
        obtain ⟨left, read⟩ := ih ends (path ++ [name.ident])
        refine ⟨left, ?_⟩
        rw [bind_of_ok symbol_of_eq, if_pos rfl, bind_of_ok next_eq]
        exact read
      · rename_i same
        obtain ⟨position, rest, rfl, _⟩ := exists_of_map_eq_cons same
        have notPeriod : tokenOf (List.head? (⟨_, position⟩ :: rest)) ≠ some (.symbol .period) :=
          fun found => ends (Option.some.inj found)
        exact ⟨_, bind_of_ok (symbol_of_ne notPeriod)⟩
      · rename_i same
        cases List.map_eq_nil_iff.1 same
        exact ⟨[], rfl⟩

/-- Where no wildcard starts, an expression does. -/
theorem exprOrWildcard_of_unstarred (unstarred : Unstarred (tokens.map (·.token))) :
    exprOrWildcard grammar context tokens = grammar.expr context tokens := by
  cases tokens with
  | nil => rfl
  | cons located rest =>
      obtain ⟨token, position⟩ := located
      rw [List.map_cons] at unstarred
      rw [exprOrWildcard, bind_of_ok get_eq, bind_of_ok next_eq]
      have named (name : Ident) (ends : PathEnds (rest.map (·.token))) :
          ∃ left, wildcardPathUpTo (rest.length + 1) [name] context rest = .ok (none, left) :=
        wildcardPathUpTo_of_pathEnds ends (rest.length + 1) [name]
      cases token with
      | word word =>
          obtain ⟨left, read⟩ := named word.ident unstarred
          exact (bind_of_ok read).trans (bind_of_ok set_eq)
      | quoted form value =>
          cases form with
          | single =>
              obtain ⟨left, read⟩ := named ⟨value, some '\''⟩ (pathEnds_of_ne unstarred)
              exact (bind_of_ok read).trans (bind_of_ok set_eq)
          | _ => exact bind_of_ok set_eq
      | symbol mark =>
          cases mark with
          | times => exact absurd rfl unstarred
          | _ => exact bind_of_ok set_eq
      | _ => exact bind_of_ok set_eq

/-- Where a wildcard may stand as well, a term is understood all the same. -/
theorem Understands.exprOrWildcard
    (understands : Understands size context later grammar.expr (phrase apart) value)
    (fronts : Fronts dialect first phrase) (noPeriod : some (.symbol .period) ∉ later) :
    Understands size context later (Parser.exprOrWildcard grammar) (phrase apart) value := by
  intro located rest few spelled
  have behind : (rest.map (·.token)).head? ∈ (phrase apart).ends later := by
    rw [head_map_token]
    exact spelled.ahead
  have unstarred := fronts.unstarred apart later _ behind noPeriod
  rw [← spelled.same, ← List.map_append] at unstarred
  rw [exprOrWildcard_of_unstarred unstarred]
  exact understands located rest few spelled

/-- No argument is given by name where no arrow stands among the tokens. -/
theorem argument_of_tame (tame : Tame tokens) :
    argument grammar context tokens = exprOrWildcard grammar context tokens := by
  have noArrow : ((tokens[1]?).map (·.token) == some (.symbol .fatArrow)) = false := by
    rw [beq_eq_false_iff_ne]
    intro same
    rw [Option.map_eq_some_iff] at same
    obtain ⟨located, found, arrow⟩ := same
    exact (tame located (List.mem_of_getElem? found)).ne_fatArrow arrow
  have ahead : peekAt 1 context tokens = .ok ((tokens[1]?).map (·.token), tokens) := rfl
  rw [argument, bind_of_ok ahead]
  simp only [noArrow, Bool.false_eq_true, if_false]

end Wildcards

/-! ## Before and after the arguments -/

section Rest

variable {grammar : Grammar} {interval : Parser Expr} {context : Context} {position : Position}
  {tokens rest : List Located} {size : Nat} {later : List (Option Token)}

theorem optionalOrder_of_ne (other : (tokenOf tokens.head?).any (·.isKeyword "ORDER") = false) :
    optionalOrder grammar context tokens = .ok ([], tokens) := by
  rw [optionalOrder, listAfter, bind_of_ok (keywords_of_ne other)]
  rfl

theorem aggregateFilter_of_ne (other : (tokenOf tokens.head?).any (·.isKeyword "FILTER") = false) :
    aggregateFilter grammar context tokens = .ok (none, tokens) := by
  rw [aggregateFilter, bind_of_ok dialect_eq]
  cases context.dialect.filtersAggregates with
  | true =>
      simp only [if_true]
      rw [bind_of_ok (keyword_of_ne other)]
      rfl
  | false => rfl

theorem nullTreatment_of_ne
    (others : ∀ word ∈ ["RESPECT", "IGNORE"],
      (tokenOf tokens.head?).any (·.isKeyword word) = false) :
    nullTreatment context tokens = .ok (none, tokens) := by
  rw [nullTreatment, bind_of_ok (oneOf_of_ne others)]
  rfl

theorem overWindow_of_ne (other : (tokenOf tokens.head?).any (·.isKeyword "OVER") = false) :
    overWindow grammar interval context tokens = .ok (none, tokens) := by
  rw [overWindow, bind_of_ok (keyword_of_ne other)]
  rfl

/-- What is read of a call after its arguments. -/
def callEnd (grammar : Grammar) (interval : Parser Expr) (name : QualifiedName) (distinct : Bool)
    (items : List Expr) (order : List OrderItem) : Parser Expr := do
  let filter ← aggregateFilter grammar
  let nulls ← nullTreatment
  let window ← overWindow grammar interval
  return .call name false distinct items order filter nulls window

theorem callEnd_of_ahead {name : QualifiedName} {distinct : Bool} {items : List Expr}
    {order : List OrderItem} (ahead : Ahead followers tokens) :
    callEnd grammar interval name distinct items order context tokens
      = .ok (.call name false distinct items order none none none, tokens) := by
  have none (word : Keyword)
      (others : ∀ head ∈ followers, head.any (·.isKeyword word) = false) :
      (tokenOf tokens.head?).any (·.isKeyword word) = false :=
    others _ ahead
  rw [callEnd, bind_of_ok (aggregateFilter_of_ne (none "FILTER" (by decide))),
    bind_of_ok (nullTreatment_of_ne (List.forall_mem_cons.2 ⟨none "RESPECT" (by decide),
      List.forall_mem_singleton.2 (none "IGNORE" (by decide))⟩)),
    bind_of_ok (overWindow_of_ne (none "OVER" (by decide)))]
  rfl

/-- The phrase of the word for leaving out what is equal, with a blank before it or none. -/
def distinctness (apart distinct : Bool) : Phrase :=
  .plain (if distinct then [⟨apart, keywordToken "DISTINCT"⟩] else [])

theorem understands_distinctness {apart distinct : Bool}
    (others : ∀ word ∈ ["ALL", "DISTINCT", "ON"], ∀ head ∈ later,
      head.any (·.isKeyword word) = false) :
    Understands size context later (allOrDistinct grammar) (distinctness apart distinct)
      (if distinct then .distinct else .all, []) := by
  rw [allOrDistinct]
  cases distinct with
  | false =>
      refine .look (fun tokens => ⟨_, peek_eq⟩) fun start => ?_
      refine .skip (fun tokens ahead => keyword_of_ne (others "ALL" (by decide) _ ahead)) ?_
      refine .skip (fun tokens ahead => keyword_of_ne (others "DISTINCT" (by decide) _ ahead)) ?_
      exact .pure
  | true =>
      have distinct := @Understands.keyword size context later "DISTINCT" apart (by decide)
      have notAll : ∀ head ∈ [some (keywordToken "DISTINCT")],
          head.any (·.isKeyword "ALL") = false := by decide
      rw [distinctness, if_pos rfl, if_pos rfl, ← Phrase.append_nil (.plain _)]
      refine .look (fun tokens => ⟨_, peek_eq⟩) fun start => ?_
      refine .skip (fun tokens ahead => keyword_of_ne (notAll _ ahead)) ?_
      refine distinct.step (List.Subset.refl _) ?_
      refine .skip (fun tokens ahead => keyword_of_ne (others "ON" (by decide) _ ahead)) ?_
      exact .pure

/-- A call comes down to its arguments. -/
theorem understands_call {name : QualifiedName} {distinct : Bool} {items : List Expr}
    {arguments : Phrase} {bound : Nat}
    (others : ∀ word ∈ ["ALL", "DISTINCT", "ON"], ∀ head ∈
      arguments.heads [some (.symbol .closeParen)], head.any (·.isKeyword word) = false)
    (read : Understands size context (looser bound) (orderedArguments grammar)
      (arguments ++ .one false (.symbol .closeParen)) (items, [])) :
    Understands size context (looser bound) (call grammar interval name)
      (parens false (distinctness false distinct ++ arguments))
      (.call name false distinct items [] none none none) := by
  have chosen : ((if distinct then Distinctness.distinct else .all) != .all) = distinct := by
    cases distinct <;> rfl
  rw [parens, Phrase.append_assoc, call]
  refine Understands.expectSymbol.step (List.Subset.refl _) ?_
  refine (understands_distinctness fun word among head ahead => ?_).step (List.Subset.refl _) ?_
  · rw [Phrase.heads_append] at ahead
    exact others word among head ahead
  · refine read.finish fun tokens ahead => ?_
    dsimp only
    rw [chosen]
    exact callEnd_of_ahead (ahead.mono looser_subset_followers)

end Rest

/-! ## Calls with arguments -/

section Spells

variable {dialect : Dialect} {depth least : Nat} {function : Ident} {path : List Ident}
  {items : List Expr} {arguments : Phrase} {distinct : Bool}

theorem tame_path {located tokens : List Located} {names : List Ident}
    (spelled : located.map (·.token) = (Plain.path names).tokens) (tame : Tame tokens) :
    Tame (located ++ tokens) := by
  induction names generalizing located with
  | nil =>
      cases List.map_eq_nil_iff.1 spelled
      exact tame
  | cons name others ih =>
      obtain ⟨period, position, behind, rfl, last⟩ := exists_of_map_eq_path spelled
      have plain : IsTame (.symbol .period) := by decide
      exact List.forall_mem_cons.2 ⟨plain, List.forall_mem_cons.2 ⟨isTame_word _, ih last⟩⟩

theorem sql_call (name : QualifiedName) (distinct : Bool) (arguments : List Expr) :
    (Expr.call name false distinct arguments [] none none none).sql
      = QualifiedName.sql name ++ "(" ++ onlyIf distinct "DISTINCT " ++
        commaJoined (Expr.sqls arguments) ++ ")" := by
  have printed : (Expr.call name false distinct arguments [] none none none).sql
      = QualifiedName.sql name ++ "(" ++ onlyIf distinct "DISTINCT " ++
        commaJoined (Expr.sqls arguments) ++ listClause " ORDER BY " [] ++ ")" ++ "" ++
        optionClause " " none ++ "" := rfl
  rw [printed]
  simp [listClause, optionClause]

/-- The names before an opening parenthesis lead to a call. -/
theorem leadingRule_of_function {level : Nat} {context : Context} {position : Position}
    {located tokens : List Located} (callable : IsCallable function)
    (spelled : located.map (·.token) = (Plain.path path).tokens)
    (opens : tokenOf tokens.head? = some (.symbol .openParen)) (tame : Tame tokens) :
    leadingRule (grammarOfDepth level) context
        (⟨nameToken function, position⟩ :: (located ++ tokens))
      = (call (grammarOfDepth level) (intervalRule (grammarOfDepth level)) (function :: path) >>=
        collated) context tokens := by
  have filled : tokens ≠ [] := by
    rintro rfl
    cases opens
  have first : tokenOf (located ++ tokens).head? = some (.symbol .openParen) ∨
      tokenOf (located ++ tokens).head? = some (.symbol .period) := by
    cases path with
    | nil =>
        cases List.map_eq_nil_iff.1 spelled
        exact .inl opens
    | cons name others =>
        obtain ⟨period, after, behind, rfl, _⟩ := exists_of_map_eq_path spelled
        exact .inr rfl
  have stops : tokenOf tokens.head? ≠ some (.symbol .period) := by
    rw [opens]
    decide
  have read := @nameRest_of_path context (grammarOfDepth level)
    (intervalRule (grammarOfDepth level)) located tokens function path spelled first stops
    (.inl filled)
  rw [opens, beq_self_eq_true, if_pos rfl] at read
  have ends : NameEnds function (located ++ tokens) := by
    cases path with
    | nil =>
        cases List.map_eq_nil_iff.1 spelled
        exact .inr ⟨callable, opens⟩
    | cons name others =>
        obtain ⟨period, after, behind, rfl, _⟩ := exists_of_map_eq_path spelled
        exact .inl List.mem_cons_self
  exact (leadingWith_name callable.free ends (tame_path spelled tame)).trans (bind_congr_of_eq read)

theorem spells_callOf (names : ∀ name ∈ function :: path, IsName dialect name)
    (callable : IsCallable function)
    (clear : (distinctness false distinct ++ arguments).Clear dialect)
    (text : (distinctness false distinct ++ arguments).text
      = (onlyIf distinct "DISTINCT " ++ commaJoined (Expr.sqls items)).toList)
    (others : ∀ word ∈ ["ALL", "DISTINCT", "ON"], ∀ head ∈
      arguments.heads [some (.symbol .closeParen)], head.any (·.isKeyword word) = false)
    (read : ∀ size level context, context.dialect = dialect → 8 * size < level →
      depth ≤ context.budget → Understands size context (looser productPrecedence)
        (orderedArguments (grammarOfDepth level)) (arguments ++ .one false (.symbol .closeParen))
        (items, [])) :
    Spells dialect depth least (.call (function :: path) false distinct items [] none none none)
      fun apart => qualified apart function path ++
        parens false (distinctness false distinct ++ arguments) where
  toFronts := by
    refine fronts_qualified names callable.free (fun apart => (clear_qualified names apart).append
      (Phrase.legible_parens false clear)) fun later _ => ?_
    rw [heads_parens]
    decide
  text := by
    intro apart
    rw [Phrase.text_append, text_qualified names, text_parens, text, sql_call]
    simp
  reaches := by
    intro size level context apart speaks enough room
    refine .of_leading (.leading (call (grammarOfDepth level)
        (intervalRule (grammarOfDepth level)) (function :: path) >>= collated)
      (List.cons_ne_nil _ _) (fun located spelled tokens ahead tame => ?_) fun fewer less => ?_)
    · obtain ⟨position, behind, rfl, later⟩ := exists_of_map_eq_cons spelled
      exact leadingRule_of_function callable later
        (List.mem_singleton.1 (heads_parens false _ ▸ ahead)) tame
    · exact (understands_call others (read fewer level context speaks (by omega) room)).collated

/-- Arguments are understood up to the closing parenthesis. -/
theorem understands_orderedArguments {size level : Nat} {context : Context} {first : Expr}
    {others : List Expr} {phrases : Expr → Bool → Phrase} {later : List (Option Token)}
    (apart : Bool) (spells : SpellsAll dialect depth (first :: others) phrases)
    (speaks : context.dialect = dialect) (enough : 8 * size < level)
    (room : depth < context.budget) :
    Understands size context later (orderedArguments (grammarOfDepth level))
      (listed apart phrases first others ++ .one false (.symbol .closeParen))
      (first :: others, []) := by
  have noOrder : ∀ head ∈ closing, head.any (·.isKeyword "ORDER") = false := by decide
  have items := understands_listed apart (fun item member apart =>
    (((spells item member).expr apart speaks enough room
      (show some (.symbol .comma) :: closing ⊆ closers by decide)).exprOrWildcard
        (spells item member).toFronts (by decide)).congr fun tokens _ tame => argument_of_tame tame)
    (show some (.symbol .comma) ∉ closing by decide)
  rw [orderedArguments]
  refine .skip (fun tokens ahead => symbol_of_ne ?_) ?_
  · rw [Phrase.heads_append] at ahead
    exact (starts_listed spells _ ahead).ne_symbol (by decide) (by decide)
  rw [if_neg Bool.false_ne_true]
  refine items.step (List.Subset.refl _) ?_
  refine .skip (fun tokens ahead => optionalOrder_of_ne (noOrder _ ahead)) ?_
  exact Understands.expectSymbol.last rfl

theorem spells_call {first : Expr} {others : List Expr} {phrases : Expr → Bool → Phrase}
    (names : ∀ name ∈ function :: path, IsName dialect name) (callable : IsCallable function)
    (distinct : Bool) (spells : SpellsAll dialect depth (first :: others) phrases) :
    Spells dialect (depth + 1) least
      (.call (function :: path) false distinct (first :: others) [] none none none) fun apart =>
        qualified apart function path ++
          parens false (distinctness false distinct ++ listed distinct phrases first others) := by
  refine spells_callOf names callable ?_ ?_ (fun word among head ahead => ?_)
    fun size level context speaks enough room =>
      understands_orderedArguments distinct spells speaks enough room
  · cases distinct with
    | false =>
        have nothing : distinctness false false = .plain [] := rfl
        rw [nothing, Phrase.nil_append]
        exact clear_listed spells false
    | true => exact (Phrase.clear_keyword (by decide) false).append (legible_listed spells)
  · rw [Phrase.text_append, text_listed spells]
    cases distinct <;> simp [distinctness, onlyIf, Piece.text]
  · have free : word ∈ reserved ∧ word ∉ termWords := by
      revert word
      decide
    exact (starts_listed spells head ahead).isKeyword_eq_false free.1 free.2

/-! ## Calls for nothing and for all columns -/

/-- The phrase of the wildcard for all columns, or of no arguments. -/
def starPhrase (all : Bool) : Phrase :=
  .plain (if all then [⟨false, .symbol .times⟩] else [])

theorem orderedArguments_of_star {all : Bool} {grammar : Grammar} {context : Context}
    {located rest : List Located}
    (spelled : located.map (·.token)
      = (starPhrase all ++ .one false (.symbol .closeParen)).tokens) :
    orderedArguments grammar context (located ++ rest)
      = .ok ((if all then [.wildcard] else [], []), rest) := by
  cases all with
  | false =>
      obtain ⟨position, rfl⟩ := exists_of_map_eq_singleton spelled
      rfl
  | true =>
      obtain ⟨star, _, rfl, closed⟩ := exists_of_map_eq_cons spelled
      obtain ⟨position, rfl⟩ := exists_of_map_eq_singleton closed
      rfl

theorem spells_bareCall (names : ∀ name ∈ function :: path, IsName dialect name)
    (callable : IsCallable function) (all : Bool) :
    Spells dialect depth least
      (.call (function :: path) false false (if all then [.wildcard] else []) [] none none none)
      fun apart => qualified apart function path ++
        parens false (distinctness false false ++ starPhrase all) := by
  refine spells_callOf names callable ?_ ?_ ?_ fun size level context _ _ _ =>
    .plain fun located rest spelled _ _ => ?_
  · have nothing : distinctness false false = .plain [] := rfl
    rw [nothing, Phrase.nil_append]
    cases all with
    | false => exact .nothing
    | true => exact Phrase.clear_mark false (by decide)
  · cases all <;> rfl
  · cases all <;> decide
  · exact orderedArguments_of_star spelled

end Spells

end Querent.Sql.Plain

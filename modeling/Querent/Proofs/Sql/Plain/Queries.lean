import Querent.Proofs.Sql.Plain.Tails

/-!
# Queries

A query may define tables beforehand, each by a query of its own, and states the order and the
number of its rows behind its body.
-/

namespace Querent.Sql.Plain

open Querent.Sql.Parser

/-! ## Spelling a query -/

/-- The phrase of a table that is defined beforehand. -/
def definitionPhrase (inner : Query → Bool → Phrase) (definition : Definition) : Phrase :=
  .one true (nameToken definition.label.name) ++ (labelColumns definition.label.columns ++
    (.words ["AS"] ++ parens true (inner definition.query false)))

/-- The phrase of the tables that are defined before a query, and of what is behind them. -/
def definedPhrase (inner : Query → Bool → Phrase) (query : Query) (body : Bool → Phrase)
    (behind : Phrase) (apart : Bool) : Phrase :=
  match query.definitions with
  | [] => body apart ++ behind
  | first :: others =>
    .one apart (keywordToken "WITH") ++ (.words (if query.recursive then ["RECURSIVE"] else []) ++
      (.separated .comma ((first :: others).map (definitionPhrase inner)) ++ (body true ++ behind)))

/-- The phrase of the order, the limit and the offset of a query. -/
def tailPhrase (phrases : Expr → Bool → Phrase) (query : Query) : Phrase :=
  .listClause ["ORDER", "BY"] (query.order.map (orderPhrase phrases)) ++
    (termClause ["LIMIT"] phrases query.limit ++
      offsetPhrase phrases query.offset query.offsetUnit)

/-- The phrase of a query. -/
def queryPhrase (phrases : Expr → Bool → Phrase) (inner : Query → Bool → Phrase)
    (body : Bool → Phrase) (query : Query) (apart : Bool) : Phrase :=
  definedPhrase inner query body (tailPhrase phrases query) apart

/-- Whether a query has no clauses but those of plain queries. -/
structure IsBareQuery (query : Query) : Prop where
  recursive : query.definitions = [] → query.recursive = false
  origins : ∀ definition ∈ query.definitions, definition.origin = none
  unit : query.offset = none → query.offsetUnit = .unstated
  limitBy : query.limitBy = []
  fetch : query.fetch = none
  locks : query.locks = []

/-- Whether a query is spelled by the phrases of its parts. -/
structure SpellsParts (dialect : Dialect) (depth : Nat) (phrases : Expr → Bool → Phrase)
    (inner : Query → Bool → Phrase) (body : Bool → Phrase) (query : Query) : Prop where
  bare : IsBareQuery query
  labels : ∀ definition ∈ query.definitions, IsLabel dialect definition.label
  free : ∀ definition ∈ query.definitions, IsFree definition.label.name
  definitions : ∀ definition ∈ query.definitions,
    SpellsQuery dialect (depth + 1) definition.query (inner definition.query)
  body : SpellsBody dialect (depth + 1) 0 query.body body
  order : ∀ item ∈ query.order, Spells dialect depth 0 item.key (phrases item.key)
  limit : ∀ term ∈ query.limit, Spells dialect depth 0 term (phrases term)
  offset : ∀ term ∈ query.offset, Spells dialect depth 0 term (phrases term)

section Definitions

variable {dialect : Dialect} {depth size level : Nat} {context : Context}
  {inner : Query → Bool → Phrase} {definition : Definition}

/-- What may follow a table that is defined beforehand. -/
def definitionEnds : List (Option Token) :=
  some (.symbol .comma) :: bodyStarts.map some

theorem sql_definition (origin : definition.origin = none) :
    definition.sql = definition.label.sql ++ " AS (" ++ definition.query.sql ++ ")" := by
  obtain ⟨label, query, origin⟩ := definition
  cases origin
  exact String.append_empty

theorem sqls_definition (definitions : List Definition) :
    Definition.sqls definitions = definitions.map Definition.sql := by
  induction definitions with
  | nil => rfl
  | cons definition rest ih => exact congrArg (definition.sql :: ·) ih

theorem cut_definitionPhrase : (definitionPhrase inner definition).cut = none
    ↔ (inner definition.query false).cut = none := by
  simp [definitionPhrase, cut_labelColumns]

theorem legible_definition (isLabel : IsLabel dialect definition.label)
    (spells : SpellsQuery dialect depth definition.query (inner definition.query)) :
    (definitionPhrase inner definition).Legible dialect := by
  obtain ⟨isName, names⟩ := List.forall_mem_cons.1 isLabel
  exact (legible_name isName).append ((legible_labelColumns names).append
    ((Phrase.legible_words (by decide)).append (Phrase.legible_parens true (spells.clear false))))

theorem text_definition (isLabel : IsLabel dialect definition.label)
    (origin : definition.origin = none)
    (spells : SpellsQuery dialect depth definition.query (inner definition.query)) :
    (definitionPhrase inner definition).text = ' ' :: definition.sql.toList := by
  obtain ⟨isName, names⟩ := List.forall_mem_cons.1 isLabel
  rw [definitionPhrase, Phrase.text_append, Phrase.text_append, Phrase.text_append, text_parens,
    spells.text, text_labelColumns names, Phrase.text_one, text_nameToken isName,
    sql_definition origin]
  simp [TableAlias.sql]

theorem understands_definition (origin : definition.origin = none)
    (spells : SpellsQuery dialect depth definition.query (inner definition.query))
    (speaks : context.dialect = dialect) (enough : 8 * size ≤ level)
    (room : depth ≤ context.budget) :
    Understands size context definitionEnds (Parser.definition (grammarOfDepth level))
      (definitionPhrase inner definition) definition := by
  obtain ⟨⟨name, columns⟩, query, origin⟩ := definition
  cases origin
  have behind : Understands size context definitionEnds
      (expectKeyword "AS" >>= fun _ => parenthesized (grammarOfDepth level).query >>= fun query =>
        after "FROM" ident >>= fun origin => pure ⟨⟨name, columns⟩, query, origin⟩)
      (.words ["AS"] ++ parens true (inner query false))
      (⟨⟨name, columns⟩, query, none⟩ : Definition) := by
    have noFrom : ∀ head ∈ definitionEnds, head.any (·.isKeyword "FROM") = false := by decide
    refine Understands.step (@Understands.expectKeyword size context _ "AS" true (by decide))
      (List.Subset.refl _) ?_
    refine Understands.finish (.parenthesized fun fewer less =>
      spells.reads fewer level context false closing speaks (by omega) room (by decide))
      fun tokens ahead => ?_
    rw [bind_of_ok (after_of_ne (noFrom _ ahead))]
    rfl
  refine understands_ident.step (List.Subset.refl _) ?_
  cases columns with
  | nil =>
      rw [labelColumns, Phrase.nil_append]
      have atAs (tokens : List Located) (ahead : Ahead ((Phrase.words ["AS"] ++
          parens true (inner query false)).heads definitionEnds) tokens) :
          atKeyword "AS" context tokens = .ok (true, tokens) := by
        rw [Phrase.heads_words_append] at ahead
        refine atKeyword_of_eq ?_
        rw [List.mem_singleton.1 ahead]
        decide
      exact Understands.skip atAs behind
  | cons first others =>
      have atParen (tokens : List Located) (ahead : Ahead ((labelColumns (first :: others) ++
          (.words ["AS"] ++ parens true (inner query false))).heads definitionEnds) tokens) :
          atKeyword "AS" context tokens = .ok (false, tokens) := by
        rw [labelColumns, columnsPhrase, Phrase.heads_append, heads_parens] at ahead
        refine atKeyword_of_ne ?_
        rw [List.mem_singleton.1 ahead]
        rfl
      refine Understands.skip atParen ?_
      refine (understands_labelColumns ?_).step (List.Subset.refl _) behind
      rw [Phrase.heads_words_append]
      decide

end Definitions

/-! ## Writing a query -/

/-- What is left of a query without the clauses that plain queries do not have. -/
def pared (query : Query) : Query where
  recursive := query.recursive
  definitions := query.definitions
  body := query.body
  order := query.order
  limit := query.limit
  limitBy := []
  offset := query.offset
  offsetUnit := query.offsetUnit
  fetch := none
  locks := []

section Queries

variable {dialect : Dialect} {depth size level : Nat} {context : Context} {query : Query}
  {phrases : Expr → Bool → Phrase} {inner : Query → Bool → Phrase} {body : Bool → Phrase}

/-- A plain query is left as it is. -/
theorem IsBareQuery.pared_eq (bare : IsBareQuery query) : pared query = query := by
  obtain ⟨_, _, _, limitBy, fetch, locks⟩ := bare
  cases query
  dsimp only at *
  subst limitBy fetch locks
  rfl

theorem sql_pared (query : Query) :
    (pared query).sql = onlyIf (!query.definitions.isEmpty)
        ("WITH " ++ onlyIf query.recursive "RECURSIVE " ++
          commaJoined (Definition.sqls query.definitions) ++ " ") ++
      query.body.sql ++ listClause " ORDER BY " (OrderItem.sqls query.order) ++
      Expr.clause " LIMIT " query.limit ++ Expr.clause " OFFSET " query.offset ++
      onlyIf query.offset.isSome query.offsetUnit.sql := by
  have printed : (pared query).sql = onlyIf (!query.definitions.isEmpty)
        ("WITH " ++ onlyIf query.recursive "RECURSIVE " ++
          commaJoined (Definition.sqls query.definitions) ++ " ") ++
      query.body.sql ++ listClause " ORDER BY " (OrderItem.sqls query.order) ++
      Expr.clause " LIMIT " query.limit ++ Expr.clause " OFFSET " query.offset ++
      onlyIf query.offset.isSome query.offsetUnit.sql ++ "" ++ "" ++ "" := rfl
  simpa only [String.append_empty] using printed

theorem legible_tail (spells : SpellsParts dialect depth phrases inner body query) :
    (tailPhrase phrases query).Legible dialect := by
  refine .append (Phrase.legible_listClause (by decide) ?_) (.append
    (legible_termClause (by decide) spells.limit) (.append
      (legible_termClause (by decide) spells.offset) (Phrase.legible_words ?_)))
  · rw [List.forall_mem_map]
    exact fun item member => legible_order (spells.order item member)
  · cases query.offsetUnit <;> decide

theorem text_tail (spells : SpellsParts dialect depth phrases inner body query) :
    (tailPhrase phrases query).text
      = (listClause " ORDER BY " (OrderItem.sqls query.order) ++
        Expr.clause " LIMIT " query.limit ++ Expr.clause " OFFSET " query.offset ++
        onlyIf query.offset.isSome query.offsetUnit.sql).toList := by
  have order := @Phrase.text_listClause _ ["ORDER", "BY"] " ORDER BY " query.order
    (orderPhrase phrases) OrderItem.sql rfl fun item member => text_order (spells.order item member)
  have limit := @text_termClause _ _ _ _ ["LIMIT"] " LIMIT " rfl spells.limit
  have offset := @text_termClause _ _ _ _ ["OFFSET"] " OFFSET " rfl spells.offset
  have unit : (Phrase.words (unitWords query.offsetUnit)).text
      = (onlyIf query.offset.isSome query.offsetUnit.sql).toList := by
    rw [text_unit]
    cases given : query.offset with
    | none =>
        rw [spells.bare.unit given]
        rfl
    | some value => rfl
  rw [tailPhrase, offsetPhrase, Phrase.text_append, Phrase.text_append, Phrase.text_append, order,
    limit, offset, unit, sqls_orderItem]
  simp

theorem clear_query (spells : SpellsParts dialect depth phrases inner body query) (apart : Bool) :
    (queryPhrase phrases inner body query apart).Clear dialect := by
  unfold queryPhrase definedPhrase
  have tail := legible_tail spells
  cases given : query.definitions with
  | nil => exact (spells.body.clear apart).append tail
  | cons first others =>
      refine (Phrase.clear_keyword (by decide) apart).append (.append ?_ (.append
        (Phrase.legible_separated (by decide) ?_) (spells.body.legible.append tail)))
      · cases query.recursive with
        | false => exact .nothing
        | true => exact Phrase.legible_words (by decide)
      · rw [List.forall_mem_map, ← given]
        exact fun definition member =>
          legible_definition (spells.labels definition member)
            (spells.definitions definition member)

theorem text_query (spells : SpellsParts dialect depth phrases inner body query) (apart : Bool) :
    (queryPhrase phrases inner body query apart).text
      = (if apart then [' '] else []) ++ query.sql.toList := by
  have printed := sql_pared query
  rw [spells.bare.pared_eq, sqls_definition] at printed
  have tail := text_tail spells
  rw [printed]
  unfold queryPhrase definedPhrase
  cases given : query.definitions with
  | nil =>
      rw [Phrase.text_append, spells.body.text, tail]
      simp [onlyIf]
  | cons first others =>
      have definitions := @Phrase.text_separated .comma _ (first :: others) (definitionPhrase inner)
        Definition.sql (fun definition member => by
          rw [← given] at member
          exact text_definition (spells.labels definition member)
            (spells.bare.origins definition member) (spells.definitions definition member))
        (List.cons_ne_nil _ _)
      simp only [Phrase.text_append, spells.body.text, tail, definitions]
      cases query.recursive <;> simp [onlyIf, commaJoined, Symbol.text]

/-- No two signs meet in a query where none meet in its parts. -/
theorem cut_queryPhrase (apart : Bool) :
    ∃ blank, (queryPhrase phrases inner body query apart).cut = none ↔
      (∀ definition ∈ query.definitions, (inner definition.query false).cut = none) ∧
      (body blank).cut = none ∧ (∀ item ∈ query.order, (phrases item.key true).cut = none) ∧
      (∀ term ∈ query.limit, (phrases term true).cut = none) ∧
      ∀ term ∈ query.offset, (phrases term true).cut = none := by
  have tail : (tailPhrase phrases query).cut = none ↔
      (∀ item ∈ query.order, (phrases item.key true).cut = none) ∧
      (∀ term ∈ query.limit, (phrases term true).cut = none) ∧
      ∀ term ∈ query.offset, (phrases term true).cut = none := by
    simp [tailPhrase, offsetPhrase, cut_termClause_eq_none_iff, Phrase.cut_listClause_eq_none_iff,
      cut_orderPhrase]
  unfold queryPhrase definedPhrase
  cases given : query.definitions with
  | nil => exact ⟨apart, by simp [tail]⟩
  | cons first others =>
      refine ⟨true, ?_⟩
      simp only [Phrase.cut_append_eq_none_iff, Phrase.cut_one, Phrase.cut_words, tail,
        Phrase.cut_separated_eq_none_iff, List.forall_mem_map, cut_definitionPhrase, true_and]

/-! ## Reading a query -/

theorem heads_limit (unstated : query.offset = none → query.offsetUnit = .unstated) :
    (termClause ["LIMIT"] phrases query.limit ++
      offsetPhrase phrases query.offset query.offsetUnit).heads queryEnds
      ⊆ ends ["LIMIT", "OFFSET"] :=
  Phrase.heads_append_subset (heads_offset unstated)
    (List.Subset.trans (heads_termClause "LIMIT" _) (by decide))

theorem heads_tail (unstated : query.offset = none → query.offsetUnit = .unstated) :
    (tailPhrase phrases query).heads queryEnds ⊆ ends ["ORDER", "LIMIT", "OFFSET"] :=
  Phrase.heads_append_subset (heads_limit unstated)
    (List.Subset.trans (Phrase.heads_listClause _ _ _ _) (by decide))

theorem locks_of_ahead {tokens : List Located} (ahead : Ahead queryEnds tokens) :
    many lock context tokens = .ok ([], tokens) := by
  have absent : lock context tokens = .ok (none, tokens) := by
    rw [lock, bind_of_ok (keyword_of_ahead ahead (by decide))]
    rfl
  rw [many, bind_of_ok get_eq, manyUpTo, bind_of_ok absent]
  rfl

/-- The order, the limit and the offset of a query are understood after its body. -/
theorem understands_tail (spells : SpellsParts dialect depth phrases inner body query)
    (speaks : context.dialect = dialect) (enough : 8 * size < level)
    (room : depth < context.budget) :
    Understands size context queryEnds
      (queryTail (grammarOfDepth level) query.recursive query.definitions query.body)
      (tailPhrase phrases query) query := by
  have order : Understands size context (ends ["LIMIT", "OFFSET"])
      (optionalOrder (grammarOfDepth level))
      (.listClause ["ORDER", "BY"] (query.order.map (orderPhrase phrases))) query.order :=
    .listAfter (by decide) (by decide) (by decide) fun item member =>
      understands_order (spells.order item member) speaks enough room
  have range : Understands size context queryEnds (rangeRound (grammarOfDepth level) ⟨none, none⟩)
      (termClause ["LIMIT"] phrases query.limit ++
        offsetPhrase phrases query.offset query.offsetUnit)
      ⟨query.limit, query.offset.map (·, query.offsetUnit)⟩ :=
    understands_range spells.limit spells.offset spells.bare.unit speaks enough room
  have others : ∀ head ∈ queryEnds, head.any (·.isKeyword "BY") = false ∧
      head.any (·.isKeyword "FETCH") = false := by decide
  suffices whole : Understands size context queryEnds
      (queryTail (grammarOfDepth level) query.recursive query.definitions query.body)
      (tailPhrase phrases query) (pared query) by
    rwa [spells.bare.pared_eq] at whole
  refine order.step (heads_limit spells.bare.unit) ?_
  refine range.finish fun tokens ahead => ?_
  have rest : (after "FETCH" fetchRest >>= fun fetch => many lock >>= fun locks =>
      pure ({ pared query with fetch := fetch, locks := locks } : Query)) context tokens
        = .ok (pared query, tokens) := by
    rw [bind_of_ok (after_of_ne (others _ ahead).2), bind_of_ok (locks_of_ahead ahead)]
    rfl
  have same : pared query = { pared query with
      offset := (query.offset.map (·, query.offsetUnit)).map (·.1)
      offsetUnit := ((query.offset.map (·, query.offsetUnit)).map (·.2)).getD .unstated } := by
    have unit := spells.bare.unit
    unfold pared
    cases given : query.offset with
    | none => rw [unit given]; rfl
    | some value => rfl
  rw [bind_of_ok (rangeRound_of_ahead ahead), bind_of_ok dialect_eq]
  rw [same] at rest ⊢
  by_cases generic : context.dialect = .generic
  · rw [if_pos generic]
    exact (bind_of_ok (listAfter_of_ne (others _ ahead).1)).trans rest
  · rw [if_neg generic]
    exact rest

/-- What is read of a query behind the tables that it defines. -/
def queryEnd (grammar : Grammar) (insert update : Parser String) (recursive : Bool)
    (definitions : List Definition) : Parser Query := do
  let change (body : Body) : Query :=
    { Query.ofBody body with recursive := recursive, definitions := definitions }
  if ← keyword "INSERT" then return change (.insert (← insert))
  else if ← keyword "UPDATE" then return change (.update (← update))
  else queryTail grammar recursive definitions (← grammar.body 0)

theorem understands_queryEnd {insert update : Parser String}
    (spells : SpellsParts dialect depth phrases inner body query) (apart : Bool)
    (speaks : context.dialect = dialect) (enough : 8 * size + 2 ≤ level)
    (room : depth < context.budget) :
    Understands size context queryEnds
      (queryEnd (grammarOfDepth level) insert update query.recursive query.definitions)
      (body apart ++ tailPhrase phrases query) query := by
  have others : ∀ head ∈ bodyStarts.map some, head.any (·.isKeyword "INSERT") = false ∧
      head.any (·.isKeyword "UPDATE") = false := by decide
  have absent {tokens : List Located}
      (ahead : Ahead ((body apart ++ tailPhrase phrases query).heads queryEnds) tokens) :
      (tokenOf tokens.head?).any (·.isKeyword "INSERT") = false ∧
        (tokenOf tokens.head?).any (·.isKeyword "UPDATE") = false := by
    rw [Phrase.heads_append] at ahead
    exact others _ (spells.body.heads apart _ ahead)
  have ended : ends ["ORDER", "LIMIT", "OFFSET"] ⊆ bodyLooser 0 := by decide
  refine .skip (fun tokens ahead => keyword_of_ne (absent ahead).1) ?_
  rw [if_neg Bool.false_ne_true]
  refine .skip (fun tokens ahead => keyword_of_ne (absent ahead).2) ?_
  rw [if_neg Bool.false_ne_true]
  refine (spells.body.whole apart speaks enough room).step ?_
    (understands_tail spells speaks (by omega) room)
  rw [Nat.min_zero]
  exact List.Subset.trans (heads_tail spells.bare.unit) ended

theorem understands_definitions (spells : SpellsParts dialect depth phrases inner body query)
    (speaks : context.dialect = dialect) (enough : 8 * size ≤ level)
    (room : depth < context.budget) (filled : query.definitions ≠ []) :
    Understands size context (bodyStarts.map some)
      (commaSeparated (Parser.definition (grammarOfDepth level)))
      (.separated .comma (query.definitions.map (definitionPhrase inner))) query.definitions :=
  .list (fun definition member => understands_definition (spells.bare.origins definition member)
    (spells.definitions definition member) speaks enough room) (by decide) filled

/-- The clauses of a query are understood one level of nesting deeper. -/
theorem understands_query (spells : SpellsParts dialect depth phrases inner body query)
    (apart : Bool) (speaks : context.dialect = dialect) (enough : 8 * size + 3 ≤ level)
    (room : depth + 2 ≤ context.budget) :
    Understands size context queryEnds (grammarOfDepth level).query
      (queryPhrase phrases inner body query apart) query := by
  obtain ⟨less, rfl⟩ : ∃ less, level = less + 1 := ⟨level - 1, by omega⟩
  obtain ⟨budget, same⟩ : ∃ budget, context.budget = budget + 1 := ⟨context.budget - 1, by omega⟩
  have inside : depth < budget := by omega
  have ended (insert update : Parser String) (apart : Bool) : Understands size
      { context with budget := budget } queryEnds
      (queryEnd (grammarOfDepth less) insert update query.recursive query.definitions)
      (body apart ++ tailPhrase phrases query) query :=
    understands_queryEnd spells apart speaks (by omega) inside
  refine .nested same ?_
  unfold queryPhrase definedPhrase
  cases given : query.definitions with
  | nil =>
      have notWith : ∀ head ∈ bodyStarts.map some, head.any (·.isKeyword "WITH") = false := by
        decide
      rw [given, spells.bare.recursive given] at ended
      refine .skip (fun tokens ahead => keyword_of_ne ?_) (ended _ _ apart)
      rw [Phrase.heads_append] at ahead
      exact notWith _ (spells.body.heads apart _ ahead)
  | cons first others =>
      have definitions := @understands_definitions dialect depth size less
        { context with budget := budget } query phrases inner body spells speaks (by omega) inside
        (by rw [given]; exact List.cons_ne_nil _ _)
      have notRecursive : ∀ head ∈ (Phrase.separated .comma ((first :: others).map
          (definitionPhrase inner)) ++ (body true ++ tailPhrase phrases query)).heads queryEnds,
          head.any (·.isKeyword "RECURSIVE") = false := by
        obtain ⟨behind, heads⟩ := @Phrase.heads_separated_cons .comma (definitionPhrase inner first)
          (others.map (definitionPhrase inner)) ((body true ++ tailPhrase phrases query).heads
            queryEnds)
        rw [Phrase.heads_append, List.map_cons, heads, definitionPhrase, Phrase.heads_one_append,
          List.forall_mem_singleton]
        exact isKeyword_nameToken (spells.free first (given ▸ List.mem_cons_self)) (by decide)
      rw [given] at definitions ended
      refine Understands.step (@Understands.keyword size _ _ "WITH" apart (by decide))
        (List.Subset.refl _) ?_
      refine Understands.step (Understands.given (by decide) notRecursive) (List.Subset.refl _) ?_
      refine definitions.step ?_ (ended _ _ true)
      rw [Phrase.heads_append]
      exact spells.body.heads true _

/-- A query is spelled by its parts. -/
theorem spells_parts (spells : SpellsParts dialect depth phrases inner body query) :
    SpellsQuery dialect (depth + 2) query (queryPhrase phrases inner body query) where
  clear := clear_query spells
  starts := by
    obtain ⟨token, among, told, starts⟩ := spells.body.starts
    have known : ∀ token ∈ bodyStarts, token ∈ queryStarts := by decide
    cases given : query.definitions with
    | nil =>
        refine ⟨token, known token among, fun isTold => ?_, fun apart => ?_⟩
        · exact told (isTold.resolve_left (fun filled => filled given))
        · obtain ⟨rest, same⟩ := starts apart
          refine ⟨rest ++ tailPhrase phrases query, ?_⟩
          unfold queryPhrase definedPhrase
          rw [given, ← Phrase.append_assoc, ← same]
    | cons first others =>
        refine ⟨keywordToken "WITH", by decide, fun _ => by decide, fun apart => ?_⟩
        unfold queryPhrase definedPhrase
        rw [given]
        exact ⟨_, rfl⟩
  text := text_query spells
  reads := fun _ _ _ apart _ speaks enough room ends =>
    (understands_query spells apart speaks enough room).before ends

end Queries

end Querent.Sql.Plain

import Querent.Proofs.Sql.Plain.Terms

/-!
# Plain trees in writing

Relations, bodies and queries are spelled by phrases as terms are.  As each kind of tree is made up
of the others, all of them are spelled by one induction on how plain trees are made.
-/

namespace Querent.Sql.Plain

open Querent.Sql.Parser

variable {dialect : Dialect} {strict : Bool} {depth least : Nat}

/-! ## Relations -/

theorem IsWrittenRelation.table {first : Ident} {others : List Ident} {label : Option TableAlias}
    (names : ∀ name ∈ first :: others, IsName dialect name) (free : IsFree first)
    (labels : ∀ found ∈ label, IsLabel dialect found) :
    IsWrittenRelation dialect depth (.table (first :: others) [] false [] label []) :=
  ⟨_, spells_table names free labels⟩

theorem IsWrittenRelation.derived {query : Query} {label : Option TableAlias}
    (labels : ∀ found ∈ label, IsLabel dialect found)
    (written : IsWrittenQuery dialect true depth query) :
    IsWrittenRelation dialect depth (.derived false query label) := by
  obtain ⟨inner, spells, parted⟩ := written
  exact ⟨_, spells_derived labels spells ((parted false).1 rfl)⟩

/-! ## Bodies -/

theorem IsTerm.ne_wildcard {value : Expr} (term : IsTerm dialect strict depth least value) :
    value ≠ .wildcard ∧ ∀ table, value ≠ .qualifiedWildcard table := by
  cases term <;> exact ⟨nofun, nofun⟩

theorem IsWrittenBody.select {select : Select} (bare : IsBare select) (filled : select.items ≠ [])
    (items : ∀ item ∈ select.items, IsItem dialect item)
    (wildcards : select.sources = [] → ∀ item ∈ select.items, (valueOf item).isSome)
    (values : ∀ item ∈ select.items, ∀ value ∈ valueOf item,
      value ≠ .wildcard ∧ ∀ table, value ≠ .qualifiedWildcard table)
    (valuesWritten : ∀ item ∈ select.items, ∀ value ∈ valueOf item,
      IsWritten dialect strict depth 0 value)
    (relations : ∀ source ∈ select.sources, IsRelation dialect (depth + 1) source.relation)
    (relationsWritten : ∀ source ∈ select.sources,
      IsWrittenRelation dialect (depth + 1) source.relation)
    (joins : ∀ source ∈ select.sources, ∀ join ∈ source.joins, IsJoin dialect join)
    (joined : ∀ source ∈ select.sources, ∀ join ∈ source.joins,
      IsRelation dialect (depth + 1) join.relation)
    (joinedWritten : ∀ source ∈ select.sources, ∀ join ∈ source.joins,
      IsWrittenRelation dialect (depth + 1) join.relation)
    (constraints : ∀ source ∈ select.sources, ∀ join ∈ source.joins,
      ∀ condition ∈ join.condition, IsWritten dialect strict depth 0 condition)
    (condition : ∀ condition ∈ select.condition, IsWritten dialect strict depth 0 condition)
    (groups : ∀ item ∈ select.groupBy, IsWritten dialect strict depth 0 item)
    (having : ∀ condition ∈ select.having, IsWritten dialect strict depth 0 condition) :
    IsWrittenBody dialect strict (depth + 1) least (.select select) := by
  obtain ⟨phrases, chooses⟩ := exists_chooses dialect strict depth
  obtain ⟨tables, spellsTables⟩ := exists_tables dialect (depth + 1)
  have spells : SpellsSelect dialect depth phrases tables select :=
    { bare := bare
      filled := filled
      wildcards := wildcards
      items := fun item member => ⟨items item member, fun value found =>
        ⟨(chooses value (valuesWritten item member value found)).1,
          values item member value found⟩⟩
      sources := fun source member =>
        { relation := spellsTables _ (relationsWritten source member)
          joins := fun join among =>
            { isJoin := joins source member join among
              relation := spellsTables _ (joinedWritten source member join among)
              condition := fun value found =>
                (chooses value (constraints source member join among value found)).1 } }
      condition := fun value found => (chooses value (condition value found)).1
      groups := chooses.spellsAll groups
      having := fun value found => (chooses value (having value found)).1 }
  obtain ⟨uncutCondition, strictCondition⟩ := chooses.parted condition
  obtain ⟨uncutGroups, strictGroups⟩ := chooses.parted groups
  obtain ⟨uncutHaving, strictHaving⟩ := chooses.parted having
  have partedValue (item : SelectItem) (member : item ∈ select.items) :=
    chooses.parted (valuesWritten item member)
  have partedJoin (source : Source) (member : source ∈ select.sources) (join : Join)
      (among : join ∈ source.joins) := chooses.parted (constraints source member join among)
  refine ⟨_, spells_select spells, fun apart => ?_⟩
  rw [cut_selectPhrase_eq_none_iff spells]
  refine ⟨fun same => ⟨fun item member => (partedValue item member).1 same,
    fun source member join among => (partedJoin source member join among).1 same,
    uncutCondition same, uncutGroups same, uncutHaving same⟩,
    fun ⟨uncutItems, uncutJoins, uncut, uncutKeys, uncutLast⟩ => ?_⟩
  exact .select bare filled items wildcards
    (fun item member => (partedValue item member).2 (uncutItems item member)) relations joins joined
    (fun source member join among => (partedJoin source member join among).2
      (uncutJoins source member join among))
    (strictCondition uncut) (strictGroups uncutKeys) (strictHaving uncutLast)

theorem IsWrittenBody.query {query : Query} (written : IsWrittenQuery dialect strict depth query) :
    IsWrittenBody dialect strict depth least (.query query) := by
  obtain ⟨inner, spells, parted⟩ := written
  refine ⟨_, spells_body_query spells, fun apart => ?_⟩
  rw [cut_parens]
  exact ⟨(parted false).1, fun uncut => .query ((parted false).2 uncut)⟩

theorem IsWrittenBody.operation {left right : Body} (operator : SetOperator)
    {quantifier : SetQuantifier} (known : quantifier ∈ quantifiers)
    (tight : least < setPrecedence operator) (loose : setPrecedence operator ≤ bodyEdge left)
    (leftWritten : IsWrittenBody dialect strict depth least left)
    (rightWritten : IsWrittenBody dialect strict depth (setPrecedence operator) right) :
    IsWrittenBody dialect strict depth least (.operation operator quantifier left right) := by
  obtain ⟨before, spellsLeft, partedLeft⟩ := leftWritten
  obtain ⟨behind, spellsRight, partedRight⟩ := rightWritten
  refine ⟨_, spells_operation operator known tight loose spellsLeft spellsRight, fun apart => ?_⟩
  simp only [Phrase.cut_append_eq_none_iff, Phrase.cut_one, Phrase.cut_words, true_and]
  exact ⟨fun same => ⟨(partedLeft apart).1 same, (partedRight true).1 same⟩, fun uncut =>
    .operation operator known tight loose ((partedLeft apart).2 uncut.1)
      ((partedRight true).2 uncut.2)⟩

/-! ## Queries -/

theorem IsWrittenQuery.mk {query : Query}
    (recursive : query.definitions = [] → query.recursive = false)
    (labels : ∀ definition ∈ query.definitions, IsLabel dialect definition.label)
    (free : ∀ definition ∈ query.definitions, IsFree definition.label.name)
    (origins : ∀ definition ∈ query.definitions, definition.origin = none)
    (definitions : ∀ definition ∈ query.definitions,
      IsWrittenQuery dialect strict (depth + 1) definition.query)
    (body : IsWrittenBody dialect strict (depth + 1) 0 query.body)
    (order : ∀ item ∈ query.order, IsWritten dialect strict depth 0 item.key)
    (limit : ∀ value ∈ query.limit, IsWritten dialect strict depth 0 value)
    (offset : ∀ value ∈ query.offset, IsWritten dialect strict depth 0 value)
    (unit : query.offset = none → query.offsetUnit = .unstated)
    (limitBy : query.limitBy = []) (fetch : query.fetch = none) (locks : query.locks = []) :
    IsWrittenQuery dialect strict (depth + 2) query := by
  obtain ⟨phrases, chooses⟩ := exists_chooses dialect strict depth
  obtain ⟨inner, spellsInner⟩ := exists_inner dialect strict (depth + 1)
  obtain ⟨content, spellsBody, partedBody⟩ := body
  have partedOrder (item : OrderItem) (member : item ∈ query.order) :=
    chooses item.key (order item member)
  have partedInner (definition : Definition) (member : definition ∈ query.definitions) :=
    spellsInner definition.query (definitions definition member)
  obtain ⟨uncutLimit, strictLimit⟩ := chooses.parted limit
  obtain ⟨uncutOffset, strictOffset⟩ := chooses.parted offset
  have spells : SpellsParts dialect depth phrases inner content query :=
    { bare := ⟨recursive, origins, unit, limitBy, fetch, locks⟩
      labels := labels
      free := free
      definitions := fun definition member => (partedInner definition member).1
      body := spellsBody
      order := fun item member => (partedOrder item member).1
      limit := fun value found => (chooses value (limit value found)).1
      offset := fun value found => (chooses value (offset value found)).1 }
  refine ⟨_, spells_parts spells, fun apart => ?_⟩
  obtain ⟨blank, uncut⟩ := @cut_queryPhrase query phrases inner content apart
  rw [uncut]
  refine ⟨fun same => ⟨fun definition member => ((partedInner definition member).2 false).1 same,
    (partedBody blank).1 same, fun item member => ((partedOrder item member).2 true).1 same,
    uncutLimit same, uncutOffset same⟩,
    fun ⟨uncutDefinitions, uncutBody, uncutOrder, uncutCount, uncutStart⟩ => ?_⟩
  exact .mk recursive labels free origins
    (fun definition member => ((partedInner definition member).2 false).2
      (uncutDefinitions definition member))
    ((partedBody blank).2 uncutBody)
    (fun item member => ((partedOrder item member).2 true).2 (uncutOrder item member))
    (strictLimit uncutCount) (strictOffset uncutStart) unit limitBy fetch locks

/-! ## Every plain tree -/

mutual

/-- Every plain term is spelled by a phrase. -/
theorem IsTerm.written {strict : Bool} {depth least : Nat} {value : Expr}
    (term : IsTerm dialect strict depth least value) :
    IsWritten dialect strict depth least value := by
  match term with
  | .name isName free => exact .name isName free
  | .compound names free => exact .compound names free
  | .literal isValue => exact .literal isValue
  | .nested term => exact .nested term.written
  | .tuple terms => exact .tuple fun item member => (terms item member).written
  | .sign known apart term => exact .sign known apart term.written
  | .negation other term => exact .negation other term.written
  | .binary known tight loose leftTerm rightTerm =>
      exact .binary known tight loose leftTerm.written rightTerm.written
  | .test negated property tight loose term => exact .test negated property tight loose term.written
  | .distinctFrom negated tight loose leftTerm rightTerm =>
      exact .distinctFrom negated tight loose leftTerm.written rightTerm.written
  | .between negated tight loose looseLow term lowTerm highTerm =>
      exact .between negated tight loose looseLow term.written lowTerm.written highTerm.written
  | .matching negated kind tight loose term patternTerm =>
      exact .matching negated kind tight loose term.written patternTerm.written
  | .inList negated tight loose term terms =>
      exact .inList negated tight loose term.written fun item member => (terms item member).written
  | .inQuery negated tight loose told term queryTerm =>
      exact .inQuery negated tight loose told term.written queryTerm.written
  | .case operandTerm conditionTerm resultTerm conditions results otherwiseTerm =>
      refine .case (fun value found => (operandTerm value found).written) ?_
        fun value found => (otherwiseTerm value found).written
      exact List.forall_mem_cons.2 ⟨⟨conditionTerm.written, resultTerm.written⟩,
        fun branch member => ⟨(conditions branch member).written, (results branch member).written⟩⟩
  | .cast kind isType term => exact .cast kind isType term.written
  | .call names callable distinct terms =>
      exact .call names callable distinct fun item member => (terms item member).written
  | .bareCall names callable all => exact .bareCall names callable all
  | .exists negated queryTerm => exact .existence negated queryTerm.written
  | .query told queryTerm => exact .subquery told queryTerm.written

/-- Every plain relation is spelled by a phrase. -/
theorem IsRelation.written {depth : Nat} {relation : Relation}
    (plain : IsRelation dialect depth relation) : IsWrittenRelation dialect depth relation := by
  match plain with
  | .table names free labels => exact .table names free labels
  | .derived labels queryTerm => exact .derived labels queryTerm.written

/-- Every plain body is spelled by a phrase. -/
theorem IsBody.written {strict : Bool} {depth least : Nat} {body : Body}
    (plain : IsBody dialect strict depth least body) :
    IsWrittenBody dialect strict depth least body := by
  match plain with
  | .select bare filled items wildcards values relations joins joined constraints condition groups
      having =>
      exact .select bare filled items wildcards
        (fun item member value found => (values item member value found).ne_wildcard)
        (fun item member value found => (values item member value found).written) relations
        (fun source member => (relations source member).written) joins joined
        (fun source member join among => (joined source member join among).written)
        (fun source member join among value found =>
          (constraints source member join among value found).written)
        (fun value found => (condition value found).written)
        (fun item member => (groups item member).written)
        (fun value found => (having value found).written)
  | .query queryTerm => exact .query queryTerm.written
  | .operation operator known tight loose leftBody rightBody =>
      exact .operation operator known tight loose leftBody.written rightBody.written

/-- Every plain query is spelled by a phrase. -/
theorem IsQuery.written {strict : Bool} {depth : Nat} {query : Query}
    (plain : IsQuery dialect strict depth query) : IsWrittenQuery dialect strict depth query := by
  match plain with
  | .mk recursive labels free origins definitions body order limit offset unit limitBy fetch
      locks =>
      exact .mk recursive labels free origins
        (fun definition member => (definitions definition member).written) body.written
        (fun item member => (order item member).written)
        (fun value found => (limit value found).written)
        (fun value found => (offset value found).written) unit limitBy fetch locks

end

end Querent.Sql.Plain

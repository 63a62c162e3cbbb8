import Querent.Proofs.Sql.Wording.Printing.Expression

/-!
# Printing innocent queries

One lemma for each form of what queries are made of: relations and joins, selections and bodies, and
queries themselves.
-/

namespace Querent.Sql

variable {dialect : Dialect}

/-! ## Relations -/

namespace Relation

variable {name : QualifiedName} {items : List Expr} {label : Option TableAlias}
  {relation : Relation}

/-- A list of partitions is printed right after the name of its table, so there must be none. -/
theorem innocent_table {called : Bool} {hints : List Expr}
    (nameInnocent : ∀ part ∈ name, Innocent part.sql)
    (innocent : ∀ item ∈ items, Innocent item.sql)
    (labelInnocent : ∀ name ∈ label, Innocent name.sql)
    (hintsInnocent : ∀ hint ∈ hints, Innocent hint.sql) :
    Innocent (Relation.table name [] called items label hints).sql := by
  have arguments := (innocent_commaSqls innocent).parenthesized.toClause
  have hinted : Clause (" WITH (" ++ commaJoined (Expr.sqls hints) ++ ")") :=
    (Joint.clause (by decide) (innocent_commaSqls hintsInnocent)).append clause_closeParen
  exact ((((innocent_qualifiedName nameInnocent).clause clause_empty).clause
    (clause_onlyIf arguments)).clause (clause_aliasSql labelInnocent)).clause
      (clause_onlyIf hinted)

theorem innocent_derived {lateral : Bool} {query : Query} (innocent : Innocent query.sql)
    (labelInnocent : ∀ name ∈ label, Innocent name.sql) :
    Innocent (Relation.derived lateral query label).sql := by
  refine ((((opening_onlyIf ?_).append joint_openParen.toOpening).text innocent).clause
    clause_closeParen).clause (clause_aliasSql labelInnocent)
  decide

theorem innocent_function (nameInnocent : ∀ part ∈ name, Innocent part.sql)
    (innocent : ∀ item ∈ items, Innocent item.sql)
    (labelInnocent : ∀ name ∈ label, Innocent name.sql) :
    Innocent (Relation.function name items label).sql := by
  refine (((Opening.text ?_ (innocent_qualifiedName nameInnocent)).joined joint_openParen
    (innocent_commaSqls innocent)).clause clause_closeParen).clause (clause_aliasSql labelInnocent)
  decide

theorem innocent_expression {value : Expr} (innocent : Innocent value.sql)
    (labelInnocent : ∀ name ∈ label, Innocent name.sql) :
    Innocent (Relation.expression value label).sql := by
  refine ((Opening.text ?_ innocent).clause clause_closeParen).clause
    (clause_aliasSql labelInnocent)
  decide

theorem innocent_unnest {withOffset : Bool} {offsetAlias : Option Ident}
    (innocent : ∀ item ∈ items, Innocent item.sql)
    (labelInnocent : ∀ name ∈ label, Innocent name.sql)
    (offsetInnocent : ∀ name ∈ offsetAlias, Innocent name.sql) :
    Innocent (Relation.unnest items label withOffset offsetAlias).sql := by
  refine ((((Opening.text ?_ (innocent_commaSqls innocent)).clause clause_closeParen).clause
    (clause_aliasSql labelInnocent)).clause (clause_onlyIf ?_)).clause
      (clause_optionClause ?_ (Option.forall_mem_map.2 offsetInnocent)) <;> decide

theorem innocent_nested {source : Source} (innocent : Innocent source.sql)
    (labelInnocent : ∀ name ∈ label, Innocent name.sql) :
    Innocent (Relation.nested source label).sql :=
  innocent.parenthesized.innocent.clause (clause_aliasSql labelInnocent)

theorem innocent_pivot {aggregate : Expr} {column : List Ident} {values : List Literal}
    (innocent : Innocent relation.sql) (aggregateInnocent : Innocent aggregate.sql)
    (columnInnocent : ∀ part ∈ column, Innocent part.sql)
    (valuesInnocent : ∀ value ∈ values, Innocent value.sql)
    (labelInnocent : ∀ name ∈ label, Innocent name.sql) :
    Innocent (Relation.pivot relation aggregate column values label).sql := by
  have listed := innocent_commaJoined (List.forall_mem_map.2 valuesInnocent)
  refine ((((innocent.joined ?_ aggregateInnocent).joined ?_
    (innocent_qualifiedName columnInnocent)).joined ?_ listed).clause ?_).clause
      (clause_aliasSql labelInnocent) <;> decide

theorem innocent_unpivot {value name : Ident} {columns : List Ident}
    (innocent : Innocent relation.sql) (valueInnocent : Innocent value.sql)
    (nameInnocent : Innocent name.sql) (columnsInnocent : ∀ column ∈ columns, Innocent column.sql)
    (labelInnocent : ∀ name ∈ label, Innocent name.sql) :
    Innocent (Relation.unpivot relation value name columns label).sql := by
  refine ((((innocent.joined ?_ valueInnocent).joined ?_ nameInnocent).joined ?_
    (innocent_identList columnsInnocent)).clause ?_).clause (clause_aliasSql labelInnocent)
    <;> decide

theorem clause_view {outer : Bool} {value : Expr} {columns : List Ident}
    (innocent : Innocent value.sql) (nameInnocent : ∀ part ∈ name, Innocent part.sql)
    (columnsInnocent : ∀ column ∈ columns, Innocent column.sql) :
    Clause (Relation.view outer value name columns).sql := by
  have opened : Clause (" LATERAL VIEW" ++ onlyIf outer " OUTER") :=
    Clause.append (by decide) (clause_onlyIf (by decide))
  have labelled : Clause (" AS " ++ identList columns) :=
    Joint.clause (by decide) (innocent_identList columnsInnocent)
  exact ((opened.joined joint_blank innocent).joined joint_blank
    (innocent_qualifiedName nameInnocent)).append (clause_onlyIf labelled)

/-- The second name of a relation starts with a break. -/
theorem innocent_relabelled {front : String} (innocent : Innocent (front ++ aliasSql none))
    (labelInnocent : ∀ name ∈ label, Innocent name.sql) : Innocent (front ++ aliasSql label) :=
  innocent.left.clause (clause_aliasSql labelInnocent)

theorem clause_hints {present : Bool} {hints : String}
    (innocent : Innocent (onlyIf present (" WITH (" ++ hints ++ ")"))) :
    Clause (onlyIf present (" WITH (" ++ hints ++ ")")) := by
  cases present with
  | false => exact clause_empty
  | true =>
      have whole : Innocent (" WITH (" ++ hints ++ ")") := innocent
      exact (Joint.clause (by decide) whole.left.right).append clause_closeParen

theorem clause_offsetAlias {offsetAlias : Option Ident}
    (innocent : Innocent (optionClause " AS " (offsetAlias.map Ident.sql))) :
    Clause (optionClause " AS " (offsetAlias.map Ident.sql)) := by
  cases offsetAlias with
  | none => exact clause_empty
  | some name =>
      have whole : Innocent (" AS " ++ name.sql) := innocent
      exact Joint.clause (by decide) whole.right

/-- A relation may take a second name where it has none. -/
theorem innocent_withAlias {label : TableAlias} (innocent : Innocent relation.sql)
    (unnamed : Parser.Relation.label? relation = none) (labelInnocent : Innocent label.sql) :
    Innocent (Parser.Relation.withAlias relation label).sql := by
  have named : ∀ name ∈ some label, Innocent name.sql := by
    simpa using labelInnocent
  cases relation with
  | table =>
      cases unnamed
      have front := innocent_relabelled (Innocent.left innocent) named
      exact front.clause (clause_hints (Innocent.right innocent))
  | unnest =>
      cases unnamed
      have front := innocent_relabelled (Innocent.left (Innocent.left innocent)) named
      exact (front.clause (clause_onlyIf (by decide))).clause
        (clause_offsetAlias (Innocent.right innocent))
  | view => exact innocent
  | _ =>
      cases unnamed
      exact innocent_relabelled innocent named

end Relation

theorem clause_join {kind : JoinKind} {relation : Relation} {natural : Bool}
    {condition : Option Expr} {columns : List Ident} (innocent : Innocent relation.sql)
    (conditionInnocent : ∀ value ∈ condition, Innocent value.sql)
    (columnsInnocent : ∀ column ∈ columns, Innocent column.sql) :
    Clause (Join.sql ⟨kind, relation, natural, condition, columns⟩) := by
  have kindInnocent : Innocent kind.sql := by
    cases kind <;> decide
  have opened : Joint (" " ++ onlyIf natural "NATURAL ") := by
    cases natural <;> decide
  have named : Clause (" USING(" ++ identList columns ++ ")") :=
    (Joint.clause (by decide) (innocent_identList columnsInnocent)).append clause_closeParen
  exact (((opened.clause kindInnocent).joined joint_blank innocent).append
    (clause_exprClause (by decide) conditionInnocent)).append (clause_onlyIf named)

theorem Source.innocent {relation : Relation} {joins : List Join} (innocent : Innocent relation.sql)
    (joinsInnocent : ∀ join ∈ joins, Clause join.sql) : Innocent (Source.sql ⟨relation, joins⟩) := by
  have joined : ∀ part ∈ Join.sqls joins, Clause part := by
    rw [Join.sqls_eq_map, List.forall_mem_map]
    exact joinsInnocent
  exact innocent.clause (clause_intercalate joined)

theorem Source.clause_view {outer : Bool} {value : Expr} {name : QualifiedName}
    {columns : List Ident} (innocent : Innocent value.sql)
    (nameInnocent : ∀ part ∈ name, Innocent part.sql)
    (columnsInnocent : ∀ column ∈ columns, Innocent column.sql) :
    Clause (Source.sql ⟨.view outer value name columns, []⟩) :=
  (Relation.clause_view innocent nameInnocent columnsInnocent).append clause_empty

/-- The first relation of a source is printed first. -/
theorem Source.innocent_relation {source : Source} (innocent : Innocent source.sql) :
    Innocent source.relation.sql := by
  obtain ⟨relation, joins⟩ := source
  have whole : Innocent (relation.sql ++ "".intercalate (Join.sqls joins)) := innocent
  exact whole.left

/-! ## Selections -/

theorem Exclusion.innocent_one {column : Ident} (innocent : Innocent column.sql) :
    Innocent (Exclusion.one column).sql :=
  Opening.text (by decide) innocent

theorem Exclusion.innocent_many {columns : List Ident}
    (innocent : ∀ column ∈ columns, Innocent column.sql) :
    Innocent (Exclusion.many columns).sql :=
  (Opening.text (by decide) (innocent_identList innocent)).clause clause_closeParen

theorem innocent_renamed {column label : Ident} (innocent : Innocent column.sql)
    (labelInnocent : Innocent label.sql) : Innocent (renamed column label) :=
  innocent.joined (by decide) labelInnocent

theorem Renaming.innocent_one {column label : Ident} (innocent : Innocent column.sql)
    (labelInnocent : Innocent label.sql) : Innocent (Renaming.one column label).sql :=
  Opening.text (by decide) (innocent_renamed innocent labelInnocent)

theorem Renaming.innocent_many {columns : List (Ident × Ident)}
    (innocent : ∀ pair ∈ columns, Innocent pair.1.sql ∧ Innocent pair.2.sql) :
    Innocent (Renaming.many columns).sql := by
  refine (Opening.text (by decide) (innocent_commaJoined ?_)).clause clause_closeParen
  exact List.forall_mem_map.2 fun pair member =>
    innocent_renamed (innocent pair member).1 (innocent pair member).2

namespace SelectItem

variable {value : Expr}

theorem innocent_expression (innocent : Innocent value.sql) :
    Innocent (SelectItem.expression value).sql :=
  innocent

theorem innocent_aliased {label : Ident} (innocent : Innocent value.sql)
    (labelInnocent : Innocent label.sql) : Innocent (SelectItem.aliased value label).sql :=
  innocent.joined (by decide) labelInnocent

/-- Columns that are replaced are introduced by a forbidden word, so there must be none. -/
theorem innocent_wildcard {table : Option QualifiedName} {exclude : Option Exclusion}
    {except : List Ident} {rename : Option Renaming}
    (tableInnocent : ∀ name ∈ table, ∀ part ∈ name, Innocent part.sql)
    (excludeInnocent : ∀ columns ∈ exclude, Innocent columns.sql)
    (exceptInnocent : ∀ column ∈ except, Innocent column.sql)
    (renameInnocent : ∀ columns ∈ rename, Innocent columns.sql) :
    Innocent (SelectItem.wildcard table exclude except rename []).sql := by
  have tables : ∀ name ∈ table, Opening (QualifiedName.sql name ++ ".") := fun name isTable =>
    (innocent_qualifiedName (tableInnocent name isTable)).joint (by decide)
  have excepted : Clause (" EXCEPT (" ++ identList except ++ ")") :=
    (Joint.clause (by decide) (innocent_identList exceptInnocent)).append clause_closeParen
  exact (((((opening_optionClause (Option.forall_mem_map.2 tables)).text (by decide)).clause
    (clause_optionClause joint_blank (Option.forall_mem_map.2 excludeInnocent))).clause
      (clause_onlyIf excepted)).clause (clause_optionClause joint_blank
        (Option.forall_mem_map.2 renameInnocent))).clause clause_empty

end SelectItem

theorem Target.innocent {target : Target} (nameInnocent : ∀ part ∈ target.name, Innocent part.sql) :
    Innocent target.sql := by
  refine ((((Innocent.clause ?_ (clause_onlyIf ?_)).clause (clause_onlyIf ?_)).clause
    (clause_onlyIf ?_)).joined joint_blank (innocent_qualifiedName nameInnocent)) <;> decide

theorem innocent_windowSqls {names : List Ident} {windows : List Window}
    (namesInnocent : ∀ name ∈ names, Innocent name.sql)
    (windowsInnocent : ∀ window ∈ windows, Innocent window.sql) :
    ∀ part ∈ List.zipWith (fun name window => name.sql ++ " AS " ++ window) names
      (Window.sqls windows), Innocent part := by
  rw [Window.sqls_eq_map, ← List.map_uncurry_zip_eq_zipWith, List.forall_mem_map]
  rintro ⟨name, window⟩ paired
  obtain ⟨nameMember, windowMember⟩ := List.of_mem_zip paired
  refine (namesInnocent name nameMember).joined (by decide) ?_
  exact List.forall_mem_map.2 windowsInnocent window windowMember

/-- What a selection says about repeated rows. -/
def Select.distinctSql (selection : Select) : String :=
  match selection.distinctness with
  | .all => ""
  | .distinct => " DISTINCT"
  | .on => " DISTINCT ON (" ++ commaJoined (Expr.sqls selection.distinctOn) ++ ")"

/-- What a selection says before its columns about how many rows it gives. -/
def Select.topSql (selection : Select) : String :=
  match selection.top with
  | none => ""
  | some quantity =>
    " TOP (" ++ quantity.sql ++ ")" ++ onlyIf selection.topPercent " PERCENT" ++
      onlyIf selection.topTies " WITH TIES"

/-- What a selection says about its groups. -/
def Select.groupSql (selection : Select) : String :=
  if selection.groupAll then " GROUP BY ALL"
  else listClause " GROUP BY " (Expr.sqls selection.groupBy)

theorem Select.sql_eq (selection : Select) :
    selection.sql = "SELECT" ++ selection.distinctSql ++ selection.topSql ++ " " ++
      commaJoined (SelectItem.sqls selection.items) ++
      optionClause " " (selection.target.map Target.sql) ++
      listClause " FROM " (Source.sqls selection.sources) ++
      "".intercalate (Source.sqls selection.views) ++
      Expr.clause " WHERE " selection.condition ++ selection.groupSql ++
      listClause " CLUSTER BY " (Expr.sqls selection.clusterBy) ++
      listClause " DISTRIBUTE BY " (Expr.sqls selection.distributeBy) ++
      listClause " SORT BY " (Expr.sqls selection.sortBy) ++
      Expr.clause " HAVING " selection.having ++
      listClause " WINDOW " (List.zipWith (fun name window => name.sql ++ " AS " ++ window)
        selection.windowNames (Window.sqls selection.windows)) ++
      Expr.clause " QUALIFY " selection.qualify := by
  obtain ⟨distinctness, _, top, _⟩ := selection
  cases distinctness <;> cases top <;> rfl

theorem Select.innocent {selection : Select} (parts : (innocence dialect).OfParts selection) :
    Innocent selection.sql := by
  have items : ∀ part ∈ SelectItem.sqls selection.items, Innocent part := by
    rw [SelectItem.sqls_eq_map, List.forall_mem_map]
    exact parts.items
  have sources : ∀ part ∈ Source.sqls selection.sources, Innocent part := by
    rw [Source.sqls_eq_map, List.forall_mem_map]
    exact parts.sources
  have views : ∀ part ∈ Source.sqls selection.views, Clause part := by
    rw [Source.sqls_eq_map, List.forall_mem_map]
    exact parts.views
  have targets : ∀ target ∈ selection.target, Innocent target.sql := fun target isTarget =>
    Target.innocent (parts.target target isTarget)
  have lists {mark : String} {items : List Expr} (joint : Joint mark)
      (innocent : ∀ item ∈ items, Innocent item.sql) : Clause (listClause mark (Expr.sqls items)) :=
    clause_listClause joint (innocent_sqls innocent)
  have start : Innocent "SELECT" := by decide
  rw [Select.sql_eq]
  refine (((((((((((((start.clause ?distinct).clause ?top).joined joint_blank
    (innocent_commaJoined items)).clause
      (clause_optionClause joint_blank (Option.forall_mem_map.2 targets))).clause
        (clause_listClause (by decide) sources)).clause (clause_intercalate views)).clause
          (clause_exprClause (by decide) parts.condition)).clause ?grouped).clause
            (lists (by decide) parts.clusterBy)).clause
              (lists (by decide) parts.distributeBy)).clause
                (lists (by decide) parts.sortBy)).clause
                  (clause_exprClause (by decide) parts.having')).clause
                    (clause_listClause (by decide)
                      (innocent_windowSqls parts.windowNames parts.windows))).clause
                        (clause_exprClause (by decide) parts.qualify)
  case distinct =>
    unfold Select.distinctSql
    split
    · exact clause_empty
    · decide
    · exact (Joint.clause (by decide) (innocent_commaSqls parts.distinctOn)).append
        clause_closeParen
  case top =>
    unfold Select.topSql
    split
    · exact clause_empty
    next quantity isQuantity =>
      refine (((Joint.clause ?_ (parts.top quantity isQuantity)).append clause_closeParen).append
        (clause_onlyIf ?_)).append (clause_onlyIf ?_) <;> decide
  case grouped =>
    unfold Select.groupSql
    split
    · decide
    · exact lists (by decide) parts.groupBy

/-! ## Bodies and queries -/

namespace Body

theorem innocent_operation {operator : SetOperator} {quantifier : SetQuantifier}
    {left right : Body} (leftInnocent : Innocent left.sql) (rightInnocent : Innocent right.sql) :
    Innocent (Body.operation operator quantifier left right).sql := by
  have words : Innocent operator.sql := by
    cases operator <;> decide
  have quantified : Clause quantifier.sql := by
    cases quantifier <;> decide
  exact ((leftInnocent.joined joint_blank words).clause quantified).joined joint_blank rightInnocent

theorem innocent_values {rowKeyword : Bool} {rows : List Expr}
    (innocent : ∀ row ∈ rows, ∃ items, row = .tuple items ∧ ∀ item ∈ items, Innocent item.sql) :
    Innocent (Body.values rowKeyword rows).sql := by
  refine Opening.text (by decide) (innocent_commaJoined ?_)
  rw [Expr.sqls_eq_map, List.forall_mem_map, List.forall_mem_map]
  intro row member
  obtain ⟨items, rfl, itemsInnocent⟩ := innocent row member
  exact (innocent_onlyIf (by decide)).clause (innocent_commaSqls itemsInnocent).parenthesized.toClause

theorem innocent_table {schema : Option String} {name : String}
    (schemaInnocent : ∀ text ∈ schema, Innocent text) (innocent : Innocent name) :
    Innocent (Body.table schema name).sql := by
  have schemas : ∀ text ∈ schema, Opening (text ++ ".") := fun text isSchema =>
    (schemaInnocent text isSchema).joint (by decide)
  exact (Opening.append (by decide)
    (opening_optionClause (Option.forall_mem_map.2 schemas))).text innocent

theorem innocent_query {query : Query} (innocent : Innocent query.sql) :
    Innocent (Body.query query).sql :=
  innocent.parenthesized.innocent

end Body

theorem Definition.innocent {definition : Definition} (labelInnocent : Innocent definition.label.sql)
    (queryInnocent : Innocent definition.query.sql)
    (originInnocent : ∀ name ∈ definition.origin, Innocent name.sql) :
    Innocent definition.sql := by
  obtain ⟨label, query, origin⟩ := definition
  exact ((Innocent.joined labelInnocent (by decide) queryInnocent).clause clause_closeParen).clause
    (clause_optionClause (by decide) (Option.forall_mem_map.2 originInnocent))

theorem Fetch.innocent {fetch : Fetch} (innocent : ∀ quantity ∈ fetch.quantity, Innocent quantity.sql) :
    Innocent fetch.sql := by
  have counted : ∀ quantity ∈ fetch.quantity,
      Opening (quantity.sql ++ onlyIf fetch.percent " PERCENT" ++ " ") := fun quantity isQuantity =>
    ((innocent quantity isQuantity).clause (clause_onlyIf (by decide))).joint joint_blank
  refine (((Opening.append ?_ (opening_optionClause (Option.forall_mem_map.2 counted))).append
    ?_).text ?_)
  · decide
  · decide
  · split <;> decide

/-- A lock for updates says a forbidden word, so the lock must be shared. -/
theorem Lock.innocent {lock : Lock} (parts : (innocence dialect).OfLock lock) :
    Innocent lock.sql := by
  have tables : ∀ name ∈ lock.table, Innocent (QualifiedName.sql name) := fun name isTable =>
    innocent_qualifiedName (parts.table name isTable)
  unfold Lock.sql
  rw [parts.shared]
  refine (Innocent.clause ?_ (clause_optionClause ?_ (Option.forall_mem_map.2 tables))).clause
    (clause_optionClause joint_blank parts.waiting) <;> decide

theorem Query.innocent {query : Query} (parts : (innocence dialect).OfClauses query) :
    Innocent query.sql := by
  obtain ⟨recursive, definitions, body, order, limit, limitBy, offset, unit, fetch, locks⟩ := query
  have defined : ∀ part ∈ Definition.sqls definitions, Innocent part := by
    rw [Definition.sqls_eq_map, List.forall_mem_map]
    exact parts.definitions
  have start : Opening ("WITH " ++ onlyIf recursive "RECURSIVE " ++
      commaJoined (Definition.sqls definitions) ++ " ") :=
    (((Opening.append (by decide) (opening_onlyIf (by decide))).text
      (innocent_commaJoined defined)).joint joint_blank)
  have fetches : ∀ limit ∈ fetch, Innocent limit.sql := fun limit isFetch =>
    Fetch.innocent (parts.fetch limit isFetch)
  have units : Clause unit.sql := by
    cases unit <;> decide
  have locked : ∀ lock ∈ locks, Clause (" " ++ lock.sql) := fun lock member =>
    joint_blank.clause (Lock.innocent (parts.locks lock member))
  exact ((((((((opening_onlyIf start).text parts.body).clause
    (clause_listClause (by decide) (innocent_orderSqls parts.order))).clause
      (clause_exprClause (by decide) parts.limit)).clause
        (clause_exprClause (by decide) parts.offset)).clause (clause_onlyIf units)).clause
          (clause_listClause (by decide) (innocent_sqls parts.limitBy))).clause
            (clause_optionClause joint_blank (Option.forall_mem_map.2 fetches))).clause
              (clause_intercalate (List.forall_mem_map.2 locked))

end Querent.Sql

import Querent.Proofs.Sql.Wording.Printing.Query

/-!
# Innocence is passed on

Plain tokens are read as innocent parts, and innocent parts make up innocent queries.
-/

namespace Querent.Sql

variable {dialect : Dialect}

/-! ## Partitions -/

open Querent.Sql.Parser in
/-- No list of partitions is read, since nothing would be printed before it. -/
theorem ensures_noPartitions :
    Ensures dialect (Plain dialect) (fun names => names = []) (do
      if ← dialectIn [.mySql, .generic] <&&> keyword "PARTITION" then identsInParens
      else pure []) := by
  intro context same tokens plain names rest parsed
  obtain ⟨divides, left, tested, later⟩ := bind_eq_ok.1 parsed
  have plainLeft := (Reads.ensures dialect (Plain dialect) context same tokens plain _ _ tested).2
  cases divides with
  | false =>
      cases later
      exact ⟨rfl, plainLeft⟩
  | true =>
      obtain ⟨_, ahead, asked, read⟩ := bind_eq_ok.1 tested
      cases asked
      cases known : [Dialect.mySql, .generic].contains context.dialect with
      | false =>
          rw [known] at read
          cases read
      | true =>
          rw [known] at read
          have divided : dialect = .mySql ∨ dialect = .generic := by
            simpa [same] using known
          obtain ⟨first, rfl, spells⟩ := keyword_eq_ok_true read
          obtain ⟨_, after, opened, _⟩ := bind_eq_ok.1 later
          obtain ⟨second, rfl, marks⟩ := expectSymbol_eq_ok opened
          have apart := plain.undivided divided
          simp [Token.opensPartitions, spells, marks] at apart

/-! ## Second names -/

theorem TableAlias.innocent_of_trait {label : TableAlias} (holds : (innocence dialect).OfLabel label) :
    Innocent label.sql :=
  TableAlias.innocent holds.1 holds.2

theorem innocent_labels {label : Option TableAlias}
    (holds : ∀ name ∈ label, (innocence dialect).OfLabel name) :
    ∀ name ∈ label, Innocent name.sql :=
  fun name isLabel => TableAlias.innocent_of_trait (holds name isLabel)

theorem Exclusion.innocent_of_trait {columns : Exclusion}
    (holds : (innocence dialect).OfExclusion columns) : Innocent columns.sql := by
  cases columns with
  | one column => exact Exclusion.innocent_one holds
  | many columns => exact Exclusion.innocent_many holds

theorem Renaming.innocent_of_trait {columns : Renaming}
    (holds : (innocence dialect).OfRenaming columns) : Innocent columns.sql := by
  cases columns with
  | one column label => exact Renaming.innocent_one holds.1 holds.2
  | many columns => exact Renaming.innocent_many holds

/-! ## The three kinds of parts -/

theorem closedTexts_innocence : (innocence dialect).ClosedTexts where
  harmless plain := plain.harmless
  head plain := plain.clean_head?
  text_innocent innocent := innocent
  text_token clean := clean.text
  text_word clean := clean.1
  text_quoted clean := clean.1
  text_number clean := clean.number_digits
  name_word clean := clean.ident
  name_quoted innocent marks := by
    refine innocent_ident innocent ?_
    rintro _ ⟨⟩
    rcases marks with rfl | rfl <;> decide
  name_text innocent := innocent_ident innocent nofun
  literal_number clean := clean
  literal_quoted clean := clean.2
  literal_text innocent plain := innocent_quoted_sql (by rcases plain with rfl | rfl <;> simp) innocent
  literal_dollarQuoted clean := clean
  literal_placeholder clean := clean
  literal_sign innocent signs := by
    refine Opening.text ?_ innocent
    rcases signs with rfl | rfl <;> decide
  literal_boolean {value} := by
    show Innocent (Literal.boolean value).sql
    cases value <;> decide
  literal_null := by
    show Innocent "NULL"
    decide
  literal_bare innocent := innocent
  type_plain := DataType.innocent_plain
  type_sized innocent := DataType.innocent_sized innocent
  type_integer innocent := DataType.innocent_integer innocent
  type_characters innocent unitInnocent := DataType.innocent_characters innocent unitInnocent
  type_decimal innocent := DataType.innocent_decimal innocent
  type_temporal innocent short := DataType.innocent_temporal innocent short
  type_members innocent valuesInnocent := DataType.innocent_members innocent valuesInnocent
  type_custom innocent textsInnocent := DataType.innocent_custom innocent textsInnocent
  type_arrayOf := DataType.innocent_arrayOf
  type_angledArray := DataType.innocent_angledArray
  operator_symbol {mark} := innocent_symbol mark
  operator_keyword innocent := innocent
  operator_named := innocent_namedOperator

theorem closedExprs_innocence : (innocence dialect).ClosedExprs where
  expr_name := Expr.innocent_name
  expr_compound := Expr.innocent_compound
  expr_literal := Expr.innocent_literal
  expr_introduced := Expr.innocent_introduced
  expr_typed := Expr.innocent_typed
  expr_nested := Expr.innocent_nested
  expr_tuple := Expr.innocent_tuple
  expr_array := Expr.innocent_array
  expr_unary := Expr.innocent_unary
  expr_binary := Expr.innocent_binary
  expr_quantified := Expr.innocent_quantified
  expr_test := Expr.innocent_test
  expr_distinctFrom := Expr.innocent_distinctFrom
  expr_inList := Expr.innocent_inList
  expr_inQuery := Expr.innocent_inQuery
  expr_inUnnest := Expr.innocent_inUnnest
  expr_between := Expr.innocent_between
  expr_matching := Expr.innocent_matching
  expr_cast := Expr.innocent_cast
  expr_extract := Expr.innocent_extract
  expr_round := Expr.innocent_round
  expr_position := Expr.innocent_position
  expr_substring := Expr.innocent_substring
  expr_overlay := Expr.innocent_overlay
  expr_trim := Expr.innocent_trim
  expr_collate := Expr.innocent_collate
  expr_case := Expr.innocent_case
  expr_exists := Expr.innocent_exists
  expr_query := Expr.innocent_query
  expr_arrayQuery := Expr.innocent_arrayQuery
  expr_call := Expr.innocent_call
  expr_argument := Expr.innocent_argument
  expr_filtered := Expr.innocent_filtered
  expr_arrayAggregate := Expr.innocent_arrayAggregate
  expr_listAggregate := Expr.innocent_listAggregate
  expr_interval := Expr.innocent_interval
  expr_grouping := Expr.innocent_grouping
  expr_index := Expr.innocent_index
  expr_lookup := Expr.innocent_lookup
  expr_field := Expr.innocent_field
  expr_atTimeZone := Expr.innocent_atTimeZone
  expr_searchText := Expr.innocent_searchText
  expr_record := Expr.innocent_record
  expr_labelled := Expr.innocent_labelled
  expr_wildcard := Expr.innocent_wildcard
  expr_qualifiedWildcard := Expr.innocent_qualifiedWildcard_iff
  key_text innocent := Expr.innocentKey_text innocent
  key_number innocent := ⟨innocent, nofun⟩
  key_expr innocent written := ⟨innocent, fun _ same => absurd same (written _)⟩
  order_key innocent := OrderItem.innocent innocent
  bound_unstated := innocent_empty
  bound_currentRow := Bound.innocent_currentRow
  bound_preceding := Bound.innocent_preceding
  bound_following := Bound.innocent_following
  window_named innocent := innocent
  window_spec := Window.innocent_spec

theorem closedQueries_innocence : (innocence dialect).ClosedQueries where
  relation_table nameInnocent none innocent labelInnocent hintsInnocent := by
    cases none
    exact Relation.innocent_table nameInnocent innocent (innocent_labels labelInnocent)
      hintsInnocent
  relation_derived innocent labelInnocent :=
    Relation.innocent_derived innocent (innocent_labels labelInnocent)
  relation_function nameInnocent innocent labelInnocent :=
    Relation.innocent_function nameInnocent innocent (innocent_labels labelInnocent)
  relation_expression innocent labelInnocent :=
    Relation.innocent_expression innocent (innocent_labels labelInnocent)
  relation_unnest innocent labelInnocent offsetInnocent :=
    Relation.innocent_unnest innocent (innocent_labels labelInnocent) offsetInnocent
  relation_nested innocent labelInnocent :=
    Relation.innocent_nested innocent (innocent_labels labelInnocent)
  relation_pivot innocent aggregateInnocent columnInnocent valuesInnocent labelInnocent :=
    Relation.innocent_pivot innocent aggregateInnocent columnInnocent valuesInnocent
      (innocent_labels labelInnocent)
  relation_unpivot innocent valueInnocent nameInnocent columnsInnocent labelInnocent :=
    Relation.innocent_unpivot innocent valueInnocent nameInnocent columnsInnocent
      (innocent_labels labelInnocent)
  relation_withAlias innocent unnamed labelInnocent :=
    Relation.innocent_withAlias innocent unnamed (TableAlias.innocent_of_trait labelInnocent)
  join_on := clause_join
  source_joins := Source.innocent
  source_relation {source} := Source.innocent_relation
  view_lateral innocent nameInnocent columnsInnocent :=
    Source.clause_view innocent nameInnocent columnsInnocent
  item_expression := SelectItem.innocent_expression
  item_aliased := SelectItem.innocent_aliased
  item_wildcard tableInnocent excludeInnocent exceptInnocent renameInnocent :=
    SelectItem.innocent_wildcard tableInnocent
      (fun columns excluded => Exclusion.innocent_of_trait (excludeInnocent columns excluded))
      exceptInnocent fun columns renamed => Renaming.innocent_of_trait (renameInnocent columns renamed)
  selection_parts := Select.innocent
  body_select innocent := innocent
  body_query := Body.innocent_query
  body_operation := Body.innocent_operation
  body_values := Body.innocent_values
  body_table := Body.innocent_table
  definition_query labelInnocent innocent originInnocent :=
    Definition.innocent (TableAlias.innocent_of_trait labelInnocent) innocent originInnocent
  query_clauses := Query.innocent

instance closed_innocence : (innocence dialect).Closed dialect where
  toLasts := inferInstanceAs (Lasts (Plain dialect))
  toClosedTexts := closedTexts_innocence
  toClosedExprs := closedExprs_innocence
  toClosedQueries := closedQueries_innocence
  partitions_read := ensures_noPartitions

end Querent.Sql

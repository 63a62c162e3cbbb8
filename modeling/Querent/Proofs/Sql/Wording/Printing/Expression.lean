import Querent.Proofs.Sql.Wording.Printing.Basic

/-!
# Printing innocent expressions

One lemma for each form of expressions: its text is innocent when the texts of its parts are.
-/

namespace Querent.Sql

namespace Expr

variable {operand left right low high pattern value condition : Expr} {items : List Expr}
  {negated : Bool}

theorem innocent_name {name : Ident} (innocent : Innocent name.sql) :
    Innocent (Expr.name name).sql := by
  exact innocent

theorem innocent_compound {parts : List Ident} (innocent : ∀ part ∈ parts, Innocent part.sql) :
    Innocent (Expr.compound parts).sql := by
  exact innocent_qualifiedName innocent

theorem innocent_literal {value : Literal} (innocent : Innocent value.sql) :
    Innocent (Expr.literal value).sql := by
  exact innocent

theorem innocent_introduced {characterSet : String} {value : Literal}
    (innocent : Innocent characterSet) (valueInnocent : Innocent value.sql) :
    Innocent (Expr.introduced characterSet value).sql := by
  exact innocent.joined joint_blank valueInnocent

theorem innocent_typed {type : DataType} {value : String} (typeInnocent : Innocent type.sql)
    (innocent : Innocent value) : Innocent (Expr.typed type value).sql := by
  exact typeInnocent.joined joint_blank (innocent_quoteText (by decide) innocent)

theorem innocent_nested (innocent : Innocent operand.sql) : Innocent (Expr.nested operand).sql := by
  exact innocent.parenthesized.innocent

theorem innocent_tuple (innocent : ∀ item ∈ items, Innocent item.sql) :
    Innocent (Expr.tuple items).sql := by
  exact (innocent_commaSqls innocent).parenthesized.innocent

theorem innocent_array {named : Bool} (innocent : ∀ item ∈ items, Innocent item.sql) :
    Innocent (Expr.array named items).sql := by
  refine ((innocent_onlyIf ?_).joined ?_ (innocent_commaSqls innocent)).clause ?_ <;>
    decide

theorem innocent_unary {operator : UnaryOperator} (innocent : Innocent operand.sql) :
    Innocent (Expr.unary operator operand).sql := by
  cases operator with
  | not => exact Opening.text (by decide) innocent
  | trailingFactorial => exact innocent.clause (by decide)
  | _ => exact Opening.text (opening_unaryOperator (by simp)) innocent

theorem innocent_binary {operator : BinaryOperator} (leftInnocent : Innocent left.sql)
    (operatorInnocent : Innocent operator.sql) (rightInnocent : Innocent right.sql) :
    Innocent (Expr.binary left operator right).sql := by
  exact leftInnocent.joined (joint_between operatorInnocent) rightInnocent

theorem innocent_quantified {operator : BinaryOperator} {all : Bool}
    (leftInnocent : Innocent left.sql) (operatorInnocent : Innocent operator.sql)
    (rightInnocent : Innocent right.sql) :
    Innocent (Expr.quantified left operator all right).sql := by
  refine ((leftInnocent.joined joint_blank operatorInnocent).joined ?_ rightInnocent).clause
    clause_closeParen
  split <;> decide

theorem innocent_test {test : Test} (innocent : Innocent operand.sql) :
    Innocent (Expr.test operand negated test).sql := by
  exact innocent.clause (clause_test test negated)

theorem innocent_distinctFrom (leftInnocent : Innocent left.sql)
    (rightInnocent : Innocent right.sql) :
    Innocent (Expr.distinctFrom left negated right).sql := by
  refine (((leftInnocent.joint ?_).append (opening_onlyIf ?_)).append ?_).text rightInnocent
    <;> decide

/-- A negation, if there is one, and the words of a comparison after its operand. -/
theorem innocent_negatable {operandText words : String} (innocent : Innocent operandText)
    (joint : Joint words) : Opening (operandText ++ onlyIf negated " NOT" ++ words) :=
  (innocent.clause (clause_onlyIf (by decide))).joint joint

theorem innocent_inList (innocent : Innocent operand.sql)
    (itemsInnocent : ∀ item ∈ items, Innocent item.sql) :
    Innocent (Expr.inList operand negated items).sql := by
  exact ((innocent_negatable innocent (by decide)).text
    (innocent_commaSqls itemsInnocent)).clause clause_closeParen

theorem innocent_inQuery {query : Query} (innocent : Innocent operand.sql)
    (queryInnocent : Innocent query.sql) : Innocent (Expr.inQuery operand negated query).sql := by
  exact ((innocent_negatable innocent (by decide)).text queryInnocent).clause
    clause_closeParen

theorem innocent_inUnnest {list : Expr} (innocent : Innocent operand.sql)
    (listInnocent : Innocent list.sql) : Innocent (Expr.inUnnest operand negated list).sql := by
  exact ((innocent_negatable innocent (by decide)).text listInnocent).clause
    clause_closeParen

theorem innocent_between (innocent : Innocent operand.sql) (lowInnocent : Innocent low.sql)
    (highInnocent : Innocent high.sql) :
    Innocent (Expr.between operand negated low high).sql := by
  exact ((innocent_negatable innocent (by decide)).text lowInnocent).joined
    (by decide) highInnocent

theorem innocent_matching {kind : Match} {escape : Option Char} (innocent : Innocent operand.sql)
    (patternInnocent : Innocent pattern.sql)
    (escapeInnocent : ∀ c ∈ escape, Innocent (String.singleton c)) :
    Innocent (Expr.matching operand negated kind pattern escape).sql := by
  have kindInnocent : Innocent kind.sql := by
    cases kind <;> decide
  have quoted : ∀ c ∈ escape, Innocent ("'" ++ String.singleton c ++ "'") := fun c isEscape =>
    (Opening.text (by decide) (escapeInnocent c isEscape)).clause (by decide)
  refine (((innocent_negatable innocent joint_blank).text kindInnocent).joined joint_blank
    patternInnocent).clause (clause_optionClause ?_ (Option.forall_mem_map.2 quoted))
  decide

theorem innocent_cast {kind : Cast} {type : DataType} {format : Option (Literal × Option Literal)}
    (innocent : Innocent operand.sql) (typeInnocent : Innocent type.sql)
    (formatInnocent : ∀ found ∈ format, Innocent found.1.sql ∧
      ∀ zone ∈ found.2, Innocent zone.sql) :
    Innocent (Expr.cast kind operand type format).sql := by
  have kindInnocent : Innocent kind.sql := by
    cases kind <;> decide
  have formats : ∀ found ∈ format, Innocent (found.1.sql ++
      optionClause " AT TIME ZONE " (found.2.map Literal.sql)) := by
    intro found isFormat
    obtain ⟨valueInnocent, zoneInnocent⟩ := formatInnocent found isFormat
    exact valueInnocent.clause
      (clause_optionClause (by decide) (Option.forall_mem_map.2 zoneInnocent))
  exact (((kindInnocent.joined joint_openParen innocent).joined (by decide)
    typeInnocent).clause (clause_optionClause (by decide)
      (Option.forall_mem_map.2 formats))).clause clause_closeParen

theorem innocent_extract {field : Keyword} (fieldInnocent : Innocent field)
    (innocent : Innocent operand.sql) : Innocent (Expr.extract field operand).sql := by
  refine ((Opening.text ?_ fieldInnocent).joined ?_ innocent).clause clause_closeParen
    <;> decide

theorem innocent_round {up : Bool} {field : Option Keyword} (innocent : Innocent operand.sql)
    (fieldInnocent : ∀ word ∈ field, Innocent word) :
    Innocent (Expr.round up operand field).sql := by
  refine ((Opening.text ?_ innocent).clause (clause_optionClause ?_ fieldInnocent)).clause
    clause_closeParen
  · split <;> decide
  · decide

theorem innocent_position (leftInnocent : Innocent left.sql) (rightInnocent : Innocent right.sql) :
    Innocent (Expr.position left right).sql := by
  refine ((Opening.text ?_ leftInnocent).joined ?_ rightInnocent).clause clause_closeParen
    <;> decide

theorem innocent_substring {start length : Option Expr} (innocent : Innocent operand.sql)
    (startInnocent : ∀ value ∈ start, Innocent value.sql)
    (lengthInnocent : ∀ value ∈ length, Innocent value.sql) :
    Innocent (Expr.substring operand start length).sql := by
  refine (((Opening.text ?_ innocent).clause (clause_exprClause ?_ startInnocent)).clause
    (clause_exprClause ?_ lengthInnocent)).clause clause_closeParen <;> decide

theorem innocent_overlay {start : Expr} {length : Option Expr} (innocent : Innocent operand.sql)
    (valueInnocent : Innocent value.sql) (startInnocent : Innocent start.sql)
    (lengthInnocent : ∀ value ∈ length, Innocent value.sql) :
    Innocent (Expr.overlay operand value start length).sql := by
  refine ((((Opening.text ?_ innocent).joined ?_ valueInnocent).joined ?_ startInnocent).clause
    (clause_exprClause ?_ lengthInnocent)).clause clause_closeParen <;> decide

theorem innocent_trim {side : Option TrimSide} {removed : Option Expr}
    (removedInnocent : ∀ value ∈ removed, Innocent value.sql) (innocent : Innocent operand.sql)
    (itemsInnocent : ∀ item ∈ items, Innocent item.sql) :
    Innocent (Expr.trim side removed operand items).sql := by
  have sides : ∀ side : TrimSide, Opening (side.sql ++ " ") := by
    intro side
    cases side <;> decide
  refine ((((Opening.append ?_ (opening_optionClause (Option.forall_mem_map.2 fun side _ =>
    sides side))).append (opening_leadClause ?_ removedInnocent)).text innocent).clause
      (clause_listClause ?_ (innocent_sqls itemsInnocent))).clause clause_closeParen
    <;> decide

theorem innocent_collate {collation : QualifiedName} (innocent : Innocent operand.sql)
    (nameInnocent : ∀ part ∈ collation, Innocent part.sql) :
    Innocent (Expr.collate operand collation).sql := by
  exact innocent.joined (by decide) (innocent_qualifiedName nameInnocent)

theorem clause_caseBranch {condition result : String} (conditionInnocent : Innocent condition)
    (resultInnocent : Innocent result) : Clause (caseBranch condition result) :=
  (Joint.clause (by decide) conditionInnocent).joined (by decide) resultInnocent

theorem innocent_case {operand otherwise : Option Expr} {conditions results : List Expr}
    (operandInnocent : ∀ value ∈ operand, Innocent value.sql)
    (conditionsInnocent : ∀ condition ∈ conditions, Innocent condition.sql)
    (resultsInnocent : ∀ result ∈ results, Innocent result.sql)
    (otherwiseInnocent : ∀ value ∈ otherwise, Innocent value.sql) :
    Innocent (Expr.case operand conditions results otherwise).sql := by
  have branches : ∀ part ∈ List.zipWith caseBranch (Expr.sqls conditions) (Expr.sqls results),
      Clause part := by
    rw [← List.map_uncurry_zip_eq_zipWith, List.forall_mem_map]
    rintro ⟨condition, result⟩ paired
    exact clause_caseBranch (innocent_sqls conditionsInnocent _ (List.of_mem_zip paired).1)
      (innocent_sqls resultsInnocent _ (List.of_mem_zip paired).2)
  refine ((((Innocent.clause ?_ (clause_exprClause joint_blank operandInnocent)).clause
    (clause_intercalate branches)).clause (clause_exprClause ?_ otherwiseInnocent)).clause ?_)
    <;> decide

theorem innocent_exists {query : Query} (innocent : Innocent query.sql) :
    Innocent (Expr.exists negated query).sql := by
  refine (((opening_onlyIf ?_).append ?_).text innocent).clause clause_closeParen
    <;> decide

theorem innocent_query {query : Query} (innocent : Innocent query.sql) :
    Innocent (Expr.query query).sql := by
  exact innocent.parenthesized.innocent

theorem innocent_arrayQuery {query : Query} (innocent : Innocent query.sql) :
    Innocent (Expr.arrayQuery query).sql := by
  refine (Opening.text ?_ innocent).clause clause_closeParen
  decide

theorem innocent_argument {name : Ident} (nameInnocent : Innocent name.sql)
    (innocent : Innocent value.sql) : Innocent (Expr.argument name value).sql :=
  nameInnocent.joined (by decide) innocent

theorem innocent_filtered (innocent : Innocent operand.sql)
    (conditionInnocent : Innocent condition.sql) :
    Innocent (Expr.filtered operand condition).sql :=
  (innocent.joined (by decide) conditionInnocent).clause clause_closeParen

theorem innocent_arrayAggregate {distinct : Bool} {order : List OrderItem} {limit : Option Expr}
    (innocent : Innocent operand.sql) (orderInnocent : ∀ item ∈ order, Innocent item.sql)
    (limitInnocent : ∀ value ∈ limit, Innocent value.sql) :
    Innocent (Expr.arrayAggregate distinct operand order limit).sql := by
  refine ((((Opening.append ?_ (opening_onlyIf ?_)).text innocent).clause (clause_listClause ?_
    (innocent_orderSqls orderInnocent))).clause (clause_exprClause ?_ limitInnocent)).clause
      clause_closeParen <;> decide

/-- An overflow is an error or nothing is said about it; one that truncates says a forbidden word. -/
theorem clause_overflow {overflow : Overflow} {filler : String}
    (kept : overflow = .unstated ∨ overflow = .error) : Clause (overflow.sql filler) := by
  rcases kept with rfl | rfl
  · exact clause_empty
  · show Clause " ON OVERFLOW ERROR"
    decide

theorem innocent_listAggregate {distinct : Bool} {separator filler : Option Expr}
    {overflow : Overflow} {order : List OrderItem} (innocent : Innocent operand.sql)
    (separatorInnocent : ∀ value ∈ separator, Innocent value.sql)
    (kept : overflow = .unstated ∨ overflow = .error)
    (orderInnocent : ∀ item ∈ order, Innocent item.sql) :
    Innocent (Expr.listAggregate distinct operand separator overflow filler order).sql := by
  have ordered : Clause
      (" WITHIN GROUP (ORDER BY " ++ commaJoined (OrderItem.sqls order) ++ ")") :=
    (Joint.clause (by decide) (innocent_commaJoined (innocent_orderSqls orderInnocent))).append
      clause_closeParen
  refine (((((Opening.append ?_ (opening_onlyIf ?_)).text innocent).clause (clause_exprClause ?_
    separatorInnocent)).clause (clause_overflow kept)).clause clause_closeParen).clause
      (clause_onlyIf ordered) <;> decide

theorem innocent_intervalSql {value : String} {leading last : Option Keyword}
    {whole fraction : Option Nat} (innocent : Innocent value)
    (leadingInnocent : ∀ word ∈ leading, Innocent word)
    (lastInnocent : ∀ word ∈ last, Innocent word) :
    Innocent (intervalSql value leading whole last fraction) := by
  have opened : Innocent ("INTERVAL " ++ value) := Opening.text (by decide) innocent
  have size (n : Nat) : Innocent s!"({n})" := (innocent_toString n).parenthesized.innocent
  unfold intervalSql
  split
  next whole fraction =>
    exact ((opened.joined (by decide) (innocent_toString whole)).joined (by decide)
      (innocent_toString fraction)).clause clause_closeParen
  next =>
    refine (((opened.clause (clause_optionClause joint_blank leadingInnocent)).clause
      (clause_optionClause joint_blank ?_)).clause (clause_optionClause ?_ lastInnocent)).clause
        (clause_optionClause joint_blank ?_)
    · exact Option.forall_mem_map.2 fun n _ => size n
    · decide
    · exact Option.forall_mem_map.2 fun n _ => size n

theorem innocent_interval {leading last : Option Keyword} {whole fraction : Option Nat}
    (innocent : Innocent value.sql) (leadingInnocent : ∀ word ∈ leading, Innocent word)
    (lastInnocent : ∀ word ∈ last, Innocent word) :
    Innocent (Expr.interval value leading whole last fraction).sql :=
  innocent_intervalSql innocent leadingInnocent lastInnocent

/-- A set of one expression is printed without its parentheses. -/
theorem innocent_setSqls (innocent : ∀ item ∈ items, Innocent item.sql) :
    ∀ part ∈ Expr.setSqls items, Innocent part := by
  induction items with
  | nil => exact List.forall_mem_nil _
  | cons item rest ih =>
      rw [List.forall_mem_cons] at innocent
      obtain ⟨itemInnocent, restInnocent⟩ := innocent
      have later := ih restInnocent
      cases item with
      | tuple inner =>
          match inner with
          | [single] =>
              have whole : Innocent ("(" ++ commaJoined [single.sql] ++ ")") := itemInnocent
              have alone : Innocent (commaJoined [single.sql]) := whole.left.right
              rw [commaJoined, String.intercalate_singleton] at alone
              exact List.forall_mem_cons.2 ⟨alone, later⟩
          | [] => exact List.forall_mem_cons.2 ⟨itemInnocent, later⟩
          | _ :: _ :: _ => exact List.forall_mem_cons.2 ⟨itemInnocent, later⟩
      | _ => exact List.forall_mem_cons.2 ⟨itemInnocent, later⟩

theorem innocent_grouping {kind : Grouping} (innocent : ∀ item ∈ items, Innocent item.sql) :
    Innocent (Expr.grouping kind items).sql := by
  have sets := innocent_commaJoined (innocent_setSqls innocent)
  cases kind with
  | sets => exact (Opening.text (by decide) (innocent_commaSqls innocent)).clause clause_closeParen
  | cube => exact (Opening.text (by decide) sets).clause clause_closeParen
  | rollup => exact (Opening.text (by decide) sets).clause clause_closeParen

theorem innocent_index (innocent : Innocent operand.sql)
    (indexesInnocent : ∀ index ∈ items, Innocent index.sql) :
    Innocent (Expr.index operand items).sql := by
  refine innocent.clause (clause_intercalate (List.forall_mem_map.2 fun index member => ?_))
  have bracketed := innocent_sqls indexesInnocent index member
  exact (Joint.clause (by decide) bracketed).append (by decide)

theorem clause_keySqls (innocent : ∀ key ∈ items, InnocentKey key) :
    ∀ part ∈ Expr.keySqls items, Clause part := by
  have bracketed {text : String} (innocent : Innocent text) : Clause ("[" ++ text ++ "]") :=
    (Joint.clause (by decide) innocent).append (by decide)
  induction items with
  | nil => exact List.forall_mem_nil _
  | cons key rest ih =>
      rw [List.forall_mem_cons] at innocent
      obtain ⟨⟨printed, bare⟩, restInnocent⟩ := innocent
      have later := ih restInnocent
      have plain := List.forall_mem_cons.2 ⟨bracketed printed, later⟩
      cases key with
      | literal value =>
          cases value with
          | quoted form text =>
              cases form with
              | single =>
                  have quoted : Clause ("[\"" ++ text ++ "\"]") :=
                    (Joint.clause (by decide) (bare text rfl)).append (by decide)
                  exact List.forall_mem_cons.2 ⟨quoted, later⟩
              | _ => exact plain
          | _ => exact plain
      | _ => exact plain

theorem innocent_lookup (innocent : Innocent operand.sql)
    (keysInnocent : ∀ key ∈ items, InnocentKey key) : Innocent (Expr.lookup operand items).sql :=
  innocent.clause (clause_intercalate (clause_keySqls keysInnocent))

theorem innocent_field {name : Ident} (innocent : Innocent operand.sql)
    (nameInnocent : Innocent name.sql) : Innocent (Expr.field operand name).sql :=
  innocent.joined (by decide) nameInnocent

theorem innocent_atTimeZone {zone : String} (innocent : Innocent operand.sql)
    (zoneInnocent : Innocent zone) : Innocent (Expr.atTimeZone operand zone).sql := by
  refine (innocent.joined ?_ zoneInnocent).clause ?_ <;> decide

theorem innocent_searchText {columns : List Ident} {value : Literal} {mode : Option String}
    (columnsInnocent : ∀ column ∈ columns, Innocent column.sql) (innocent : Innocent value.sql)
    (modeInnocent : ∀ words ∈ mode, Innocent words) :
    Innocent (Expr.searchText columns value mode).sql := by
  refine (((Opening.text ?_ (innocent_identList columnsInnocent)).joined ?_ innocent).clause
    (clause_optionClause joint_blank modeInnocent)).clause clause_closeParen <;> decide

theorem innocent_record {fields : List (Option Ident × DataType)}
    (fieldsInnocent : ∀ field ∈ fields,
      (∀ name ∈ field.1, Innocent name.sql) ∧ Innocent field.2.sql)
    (innocent : ∀ item ∈ items, Innocent item.sql) : Innocent (Expr.record fields items).sql := by
  have types := innocent_commaJoined (DataType.innocent_fieldsSql fieldsInnocent)
  have typed : Clause ("<" ++ commaJoined (DataType.fieldsSql fields) ++ ">") :=
    (Joint.clause (by decide) types).append (by decide)
  refine ((Innocent.clause ?_ (clause_onlyIf typed)).joined joint_openParen
    (innocent_commaSqls innocent)).clause clause_closeParen
  decide

theorem innocent_labelled {asKeyword : Bool} {name : Ident} (innocent : Innocent operand.sql)
    (nameInnocent : Innocent name.sql) :
    Innocent (Expr.labelled operand asKeyword name).sql := by
  refine innocent.joined ?_ nameInnocent
  split <;> decide

theorem innocent_wildcard : Innocent Expr.wildcard.sql := by
  show Innocent "*"
  decide

theorem innocent_qualifiedWildcard_iff {name : QualifiedName} :
    Innocent (Expr.qualifiedWildcard name).sql ↔ ∀ part ∈ name, Innocent part.sql := by
  constructor
  · intro innocent part member
    have whole : Innocent (QualifiedName.sql name ++ ".*") := innocent
    exact innocent_of_intercalate whole.left part.sql (List.mem_map_of_mem member)
  · intro innocent
    exact (innocent_qualifiedName innocent).clause (by decide)

end Expr

/-! ## Windows and calls -/

theorem Bound.innocent_currentRow : Innocent Bound.currentRow.sql := by
  show Innocent "CURRENT ROW"
  decide

theorem Bound.innocent_preceding {distance : Option Expr}
    (innocent : ∀ value ∈ distance, Innocent value.sql) :
    Innocent (Bound.preceding distance).sql := by
  cases distance with
  | none =>
      show Innocent "UNBOUNDED PRECEDING"
      decide
  | some value => exact (innocent value rfl).clause (by decide)

theorem Bound.innocent_following {distance : Option Expr}
    (innocent : ∀ value ∈ distance, Innocent value.sql) :
    Innocent (Bound.following distance).sql := by
  cases distance with
  | none =>
      show Innocent "UNBOUNDED FOLLOWING"
      decide
  | some value => exact (innocent value rfl).clause (by decide)

/-- The text of a frame between its units and its ends. -/
theorem innocent_frame {units : FrameUnits} {start finish : String} (startInnocent : Innocent start)
    (finishInnocent : Innocent finish) :
    Innocent (units.sql ++ " " ++ start) ∧
      Innocent (units.sql ++ " BETWEEN " ++ start ++ " AND " ++ finish) := by
  have unitsInnocent : Innocent units.sql := by
    cases units <;> decide
  constructor
  · exact unitsInnocent.joined joint_blank startInnocent
  · exact (unitsInnocent.joined (by decide) startInnocent).joined (by decide) finishInnocent

theorem Window.innocent_spec {partition : List Expr} {order : List OrderItem}
    {units : Option FrameUnits} {start finish : Bound}
    (partitionInnocent : ∀ item ∈ partition, Innocent item.sql)
    (orderInnocent : ∀ item ∈ order, Innocent item.sql) (startInnocent : Innocent start.sql)
    (finishInnocent : Innocent finish.sql) :
    Innocent (Window.spec partition order units start finish).sql := by
  refine (Opening.text (by decide) (innocent_intercalate joint_blank fun part member => ?_)).clause
    clause_closeParen
  have listed := List.mem_of_mem_filter member
  simp only [List.mem_cons, List.not_mem_nil, or_false] at listed
  rcases listed with rfl | rfl | rfl
  · exact innocent_listClause (by decide) (innocent_sqls partitionInnocent)
  · exact innocent_listClause (by decide) (innocent_orderSqls orderInnocent)
  · split
    · exact innocent_empty
    · exact (innocent_frame startInnocent finishInnocent).1
    · exact (innocent_frame startInnocent finishInnocent).2

theorem clause_overClause {window : Option Window} (innocent : ∀ w ∈ window, Innocent w.sql) :
    Clause (Window.overClause window) := by
  cases window with
  | none => exact clause_empty
  | some w => exact Joint.clause (by decide) (innocent w rfl)

theorem Expr.innocent_call {name : QualifiedName} {bare distinct : Bool} {items : List Expr}
    {order : List OrderItem} {filter : Option Expr} {nulls : Option NullTreatment}
    {window : Option Window} (nameInnocent : ∀ part ∈ name, Innocent part.sql)
    (innocent : ∀ item ∈ items, Innocent item.sql)
    (orderInnocent : ∀ item ∈ order, Innocent item.sql)
    (filterInnocent : ∀ value ∈ filter, Innocent value.sql)
    (windowInnocent : ∀ w ∈ window, Innocent w.sql) :
    Innocent (Expr.call name bare distinct items order filter nulls window).sql := by
  have nullsInnocent : ∀ treatment : NullTreatment, Innocent treatment.sql := by
    intro treatment
    cases treatment <;> decide
  have named := innocent_qualifiedName nameInnocent
  cases bare with
  | true => exact named
  | false =>
      refine ((((((((named.joint joint_openParen).append (opening_onlyIf ?_)).text
        (innocent_commaSqls innocent)).clause (clause_listClause ?_
          (innocent_orderSqls orderInnocent))).clause clause_closeParen).clause
            (clause_filterClause filterInnocent)).clause (clause_optionClause joint_blank
              (Option.forall_mem_map.2 fun treatment _ => nullsInnocent treatment))).clause
                (clause_overClause windowInnocent))
        <;> decide

end Querent.Sql

import Querent.Proofs.Sql.Grammar.Expression

/-!
# Relations have a trait

Where the rules that a relation refers to read parts with a closed trait, the rules for relations, for
joins and for what is made of them do so too.
-/

namespace Querent.Sql.Parser

variable {dialect : Dialect} {trait : Trait} {grammar : Grammar} [closed : trait.Closed dialect]
  [rules : trait.Rules dialect grammar]

theorem ensures_derivedRest (lateral : Bool) :
    Ensures dialect trait.tokens trait.relation (derivedRest grammar lateral) := by
  refine .step rules.query fun query holds => .skip fun _ => ?_
  exact .step ensures_optionalTableAlias fun label holdsLabel =>
    .pure (closed.relation_derived holds holdsLabel)

theorem ensures_lateralRest :
    Ensures dialect trait.tokens trait.relation (lateralRest grammar) := by
  refine .skip fun opened => .ite (fun _ => ensures_derivedRest _) fun _ => ?_
  refine .step ensures_qualifiedName fun name holdsName => .skip fun _ => ?_
  refine .step ensures_arguments fun items holds => ?_
  exact .step ensures_optionalTableAlias fun label holdsLabel =>
    .pure (closed.relation_function holdsName holds holdsLabel)

theorem ensures_pivotRest {relation : Querent.Sql.Relation} (holds : trait.relation relation) :
    Ensures dialect trait.tokens trait.relation (pivotRest grammar relation) := by
  refine .skip fun _ => .step ensures_next fun found token => ?_
  extract_lets aggregated
  have aggregates : ∀ name, trait.text name →
      Ensures dialect trait.tokens trait.relation (aggregated name) := by
    intro name text
    have names : ∀ part ∈ [(⟨name, none⟩ : Ident)], trait.name part := by
      simpa using closed.name_text text
    refine .step (ensures_call ensures_intervalRule names) fun aggregate called => ?_
    refine .skip fun _ => .step ensures_qualifiedName fun column holdsColumn => ?_
    refine .skip fun _ => .skip fun _ => ?_
    refine .step (ensures_commaSeparated ensures_literal) fun values holdsValues => ?_
    refine .skip fun _ => .skip fun _ => ?_
    exact .step ensures_optionalTableAlias fun label holdsLabel =>
      .pure (closed.relation_pivot holds called.1 holdsColumn holdsValues holdsLabel)
  clear_value aggregated
  split
  next isWord => exact .given (aggregates _ (closed.text_word (token _ isWord)))
  next => exact .step (ensures_expected _) aggregates

omit rules in
theorem ensures_unpivotRest {relation : Querent.Sql.Relation} (holds : trait.relation relation) :
    Ensures dialect trait.tokens trait.relation (unpivotRest relation) := by
  refine .skip fun _ => .step ensures_ident fun value holdsValue => .skip fun _ => ?_
  refine .step ensures_ident fun name holdsName => .skip fun _ => ?_
  refine .step ensures_columns fun names holdsNames => .skip fun _ => ?_
  exact .step ensures_optionalTableAlias fun label holdsLabel =>
    .pure (closed.relation_unpivot holds holdsValue holdsName holdsNames holdsLabel)

theorem ensures_turns {relation : Querent.Sql.Relation} (holds : trait.relation relation) :
    Ensures dialect trait.tokens trait.relation (turns grammar relation) := by
  have upTo : ∀ bound relation, trait.relation relation →
      Ensures dialect trait.tokens trait.relation (turnsUpTo grammar bound relation) := by
    intro bound
    induction bound with
    | zero => exact fun _ holds => .pure holds
    | succ bound ih =>
        intro relation holds
        refine .skip fun pivots => .ite (fun _ => .step (ensures_pivotRest holds) ih) fun _ => ?_
        refine .skip fun unpivots => .ite (fun _ => ?_) fun _ => .pure holds
        exact .step (ensures_unpivotRest holds) ih
  exact .skip fun tokens => upTo _ relation holds

theorem ensures_tableHints :
    Ensures dialect trait.tokens (fun hints => ∀ hint ∈ hints, trait.expr hint)
      (tableHints grammar) := by
  refine .step .get fun start isSafe => ?_
  refine .skip fun hinted => .ite (fun _ => ?_) fun _ => .pure (by simp)
  refine .skip fun opened => .ite (fun _ => ?_) fun _ => .restore isSafe (.pure (by simp))
  exact .step ensures_exprs fun hints holds => .skip fun _ => .pure holds

theorem ensures_tableRest : Ensures dialect trait.tokens trait.relation (tableRest grammar) := by
  refine .step ensures_qualifiedName fun name holdsName => ?_
  extract_lets named
  have names : ∀ partitions, trait.partitions partitions →
      Ensures dialect trait.tokens trait.relation (named partitions) := by
    intro partitions holdsPartitions
    refine .skip fun called => ?_
    extract_lets applied
    have applies : ∀ items : List Expr, (∀ item ∈ items, trait.expr item) →
        Ensures dialect trait.tokens trait.relation (applied items) := by
      intro items holds
      refine .step ensures_optionalTableAlias fun label holdsLabel => ?_
      refine .step ensures_tableHints fun hints holdsHints => ?_
      exact ensures_turns
        (closed.relation_table holdsName holdsPartitions holds holdsLabel holdsHints)
    clear_value applied
    exact .ite (fun _ => .step ensures_arguments applies) fun _ => .given (applies _ (by simp))
  clear_value named
  exact .tested closed.partitions_read names

theorem ensures_unnestRest : Ensures dialect trait.tokens trait.relation (unnestRest grammar) := by
  refine .step (ensures_parenthesized ensures_exprs) fun arrays holds => ?_
  refine .step ensures_optionalTableAlias fun label holdsLabel => .skip fun offset => ?_
  refine .ite (fun _ => ?_) fun _ => .pure (closed.relation_unnest holds holdsLabel (by simp))
  exact .step (ensures_optionalAlias _) fun name holdsName =>
    .pure (closed.relation_unnest holds holdsLabel holdsName)

/-- A relation in parentheses takes a second name after them unless it has one. -/
theorem ensures_nestedRest : Ensures dialect trait.tokens trait.relation (nestedRest grammar) := by
  refine .step rules.source fun source holds => ?_
  extract_lets whole
  refine .ite (fun _ => .skip fun _ => ?_) fun _ => .skip fun known => .ite (fun _ => ?_) fun _ => ?_
  · exact .step ensures_optionalTableAlias fun label holdsLabel =>
      .pure (closed.relation_nested holds holdsLabel)
  · have inner := closed.source_relation holds
    refine .skip fun _ => .step ensures_optionalTableAlias fun label holdsLabel => ?_
    split
    next => exact .throw _
    next outer unnamed =>
      exact .pure (closed.relation_withAlias inner unnamed (holdsLabel outer rfl))
    next => exact .pure inner
  · exact ensures_expected _

theorem ensures_relationRule :
    Ensures dialect trait.tokens trait.relation (relationRule grammar) := by
  refine .skip fun lateral => .ite (fun _ => ensures_lateralRest) fun _ => ?_
  refine .skip fun table => .ite (fun _ => ?_) fun _ => ?_
  · refine .step (ensures_parenthesized rules.expr) fun value holds => ?_
    exact .step ensures_optionalTableAlias fun label holdsLabel =>
      .pure (closed.relation_expression holds holdsLabel)
  refine .skip fun opened => .ite (fun _ => ?_) fun _ => ?_
  · refine .step (ensures_attempt (ensures_derivedRest _)) fun derived holds => ?_
    split
    next relation => exact ensures_turns (holds relation rfl)
    next => exact ensures_nestedRest
  exact .skip fun unnest => .ite (fun _ => ensures_unnestRest) fun _ => ensures_tableRest

/-! ## Joins -/

theorem ensures_constraint (natural : Bool) :
    Ensures dialect trait.tokens
      (fun found => (∀ value ∈ found.condition, trait.expr value) ∧
        ∀ column ∈ found.columns, trait.name column) (constraint grammar natural) := by
  refine .ite (fun _ => .pure (by simp)) fun _ => .skip fun on => .ite (fun _ => ?_) fun _ => ?_
  · exact .step rules.expr fun condition holds => .pure (by simpa using holds)
  · refine .skip fun using' => .ite (fun _ => ?_) fun _ => .pure (by simp)
    exact .step ensures_columns fun names holds => .pure (by simpa using holds)

omit closed rules in
instance (side : Keyword) (plain semi anti : JoinKind) : Reads (sidedJoin side plain semi anti) := by
  refine ⟨fun dialect safe _ => .skip fun _ => .skip fun found => ?_⟩
  split <;> exact Reads.ensures _ _

omit closed rules in
instance (natural : Bool) : Reads (constrainedJoin natural) := by
  refine ⟨fun dialect safe _ => .skip fun found => ?_⟩
  split <;> exact Reads.ensures _ _

theorem ensures_join :
    Ensures dialect trait.tokens (fun found => ∀ joined ∈ found, trait.join joined)
      (join grammar) := by
  unfold join
  extract_lets unconstrained
  have joins : ∀ kind, Ensures dialect trait.tokens
      (fun found => ∀ joined ∈ found, trait.join joined) (unconstrained kind) := by
    intro kind
    refine .step rules.relation fun relation holds => .pure ?_
    rintro _ ⟨⟩
    exact closed.join_on holds (by simp) (by simp)
  clear_value unconstrained
  refine .skip fun cross => ?_
  refine .ite (fun _ => .skip fun plain => .ite (fun _ => joins _) fun _ => ?_) fun _ => ?_
  · exact .skip fun applied => .ite (fun _ => joins _) fun _ => ensures_expected _
  refine .skip fun outer => .ite (fun _ => .skip fun _ => joins _) fun _ => ?_
  refine .skip fun natural => .skip fun kind => ?_
  split
  · refine .step rules.relation fun relation holds => ?_
    refine .step (ensures_constraint _) fun found holdsFound => .pure ?_
    rintro _ ⟨⟩
    exact closed.join_on holds holdsFound.1 holdsFound.2
  · exact .pure (by simp)

theorem ensures_sourceRule : Ensures dialect trait.tokens trait.source (sourceRule grammar) := by
  refine .step rules.relation fun relation holds => ?_
  exact .step (ensures_many ensures_join) fun joins holdsJoins =>
    .pure (closed.source_joins holds holdsJoins)

theorem ensures_lateralView :
    Ensures dialect trait.tokens (fun found => ∀ view ∈ found, trait.view view)
      (lateralView grammar) := by
  refine .skip fun present => .ite (fun _ => .skip fun outer => ?_) fun _ => .pure (by simp)
  refine .step rules.expr fun value holds => ?_
  refine .step ensures_qualifiedName fun name holdsName => ?_
  refine .step (ensures_commaSeparated (ensures_optionalAlias _)) fun names holdsNames => .pure ?_
  rintro _ ⟨⟩
  refine closed.view_lateral holds holdsName fun column member => ?_
  obtain ⟨found, listed, isColumn⟩ := List.mem_filterMap.1 member
  exact holdsNames found listed column isColumn

end Querent.Sql.Parser

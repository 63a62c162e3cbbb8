import Querent.Proofs.Sql.Grammar.Relation
import Querent.Sql.Grammar.Selection

/-!
# Selections and queries have a trait

Where the rules that a query refers to read parts with a closed trait, the rules for selections,
bodies and queries do so too.  A query inserts or changes rows, locks rows for updates or replaces
columns only where a token spells a forbidden word, and no harmless token does.
-/

namespace Querent.Sql.Parser

variable {dialect : Dialect} {trait : Trait} {grammar : Grammar} [closed : trait.Closed dialect]
  [rules : trait.Rules dialect grammar]

/-! ## Selected columns -/

section Names

omit rules

theorem ensures_renamedColumn :
    Ensures dialect trait.tokens trait.OfRenamed renamedColumn := by
  refine .step ensures_ident fun column holds => .skip fun _ => ?_
  exact .step ensures_ident fun label holdsLabel => .pure ⟨holds, holdsLabel⟩

theorem ensures_exclusion :
    Ensures dialect trait.tokens (fun found => ∀ columns ∈ found, trait.OfExclusion columns)
      exclusion := by
  refine .skip fun excludes => .ite (fun _ => .skip fun ahead => ?_) fun _ => .pure (by simp)
  refine .ite (fun _ => ?_) fun _ => ?_
  · refine .step (ensures_parenthesized ensures_idents) fun columns holds => .pure ?_
    rintro _ ⟨⟩
    exact holds
  · refine .step ensures_ident fun column holds => .pure ?_
    rintro _ ⟨⟩
    exact holds

theorem ensures_renamings :
    Ensures dialect trait.tokens (fun found => ∀ columns ∈ found, trait.OfRenaming columns)
      renamings := by
  refine .skip fun renames => .ite (fun _ => .skip fun ahead => ?_) fun _ => .pure (by simp)
  refine .ite (fun _ => ?_) fun _ => ?_
  · refine .step (ensures_parenthesized (ensures_commaSeparated ensures_renamedColumn))
      fun columns holds => .pure ?_
    rintro _ ⟨⟩
    exact holds
  · refine .step ensures_renamedColumn fun pair holds => .pure ?_
    rintro _ ⟨⟩
    exact holds

theorem ensures_exceptions :
    Ensures dialect trait.tokens (fun columns => ∀ column ∈ columns, trait.name column)
      exceptions := by
  refine .skip fun ahead => .ite (fun _ => ensures_columns) fun _ => ?_
  exact .step ensures_ident fun column holds => .pure (by simpa using holds)

/-- No column is replaced, since that is said with a forbidden word. -/
theorem ensures_replacements :
    Ensures dialect trait.tokens (fun items => items = []) (replacements grammar) := by
  have absent : Ensures dialect trait.tokens (fun found => found = false) (keyword "REPLACE") :=
    ensures_keyword_forbidden closed.harmless (by decide)
  refine .step absent fun found missing => ?_
  subst missing
  exact .pure rfl

theorem ensures_wildcardRest {table : Option QualifiedName}
    (holds : ∀ name ∈ table, ∀ part ∈ name, trait.name part) :
    Ensures dialect trait.tokens trait.item (wildcardRest grammar table) := by
  unfold wildcardRest
  extract_lets generic excluded
  have : Reads generic := inferInstanceAs (Reads (dialectIn [.generic]))
  have excludes : ∀ exclude : Option Exclusion,
      (∀ columns ∈ exclude, trait.OfExclusion columns) →
      Ensures dialect trait.tokens trait.item (excluded exclude) := by
    intro exclude holdsExclude
    refine .skip fun known => ?_
    extract_lets excepted
    have excepts : ∀ except : List Ident, (∀ column ∈ except, trait.name column) →
        Ensures dialect trait.tokens trait.item (excepted except) := by
      intro except holdsExcept
      refine .skip fun known => ?_
      extract_lets renamed
      have renames : ∀ rename : Option Renaming,
          (∀ columns ∈ rename, trait.OfRenaming columns) →
          Ensures dialect trait.tokens trait.item (renamed rename) := by
        intro rename holdsRename
        refine .skip fun known => .perhaps ensures_replacements rfl fun replace none => ?_
        subst none
        exact .pure (closed.item_wildcard holds holdsExclude holdsExcept holdsRename)
      clear_value renamed
      exact .perhaps ensures_renamings (by simp) renames
    clear_value excepted
    exact .perhaps ensures_exceptions (by simp) excepts
  clear_value excluded
  exact .skip fun known => .perhaps ensures_exclusion (by simp) excludes

end Names

theorem ensures_columnFilter {value : Expr} (holds : trait.expr value) :
    Ensures dialect trait.tokens trait.expr (columnFilter grammar value) := by
  refine .step .get fun start isSafe => ?_
  refine .skip fun filters => .ite (fun _ => ?_) fun _ => .pure holds
  refine .skip fun opened => .ite (fun _ => ?_) fun _ => .restore isSafe (.pure holds)
  refine .step rules.expr fun condition holdsCondition => .skip fun _ => ?_
  exact .pure (closed.expr_filtered holds holdsCondition)

theorem ensures_selectItem : Ensures dialect trait.tokens trait.item (selectItem grammar) := by
  refine .step ensures_exprOrWildcard fun value holds => ?_
  split
  · exact ensures_wildcardRest (by simp)
  · exact ensures_wildcardRest (by simpa using closed.expr_qualifiedWildcard.1 holds)
  · refine .step (ensures_columnFilter holds) fun filtered holdsFiltered => ?_
    refine .step (ensures_optionalAlias _) fun found holdsName => ?_
    split
    next name => exact .pure (closed.item_aliased holdsFiltered (holdsName name rfl))
    next => exact .pure (closed.item_expression holdsFiltered)

/-! ## Clauses of a selection -/

theorem ensures_topRest :
    Ensures dialect trait.tokens (fun found => trait.expr found.1) (topRest grammar) := by
  refine .skip fun opened => ?_
  extract_lets counted
  have counts : ∀ quantity : Expr, trait.expr quantity →
      Ensures dialect trait.tokens (fun found => trait.expr found.1) (counted quantity) :=
    fun quantity holds => .skip fun percent => .skip fun ties => .pure holds
  clear_value counted
  refine .ite (fun _ => ?_) fun _ => ?_
  · exact .step rules.expr fun quantity holds => .skip fun _ => .given (counts quantity holds)
  · have number : Ensures dialect trait.tokens trait.expr (Expr.literal <$> numberValue) :=
      ensures_numberValue.map fun value holds => closed.expr_literal holds
    exact .step number counts

omit rules in
theorem ensures_targetRest :
    Ensures dialect trait.tokens (fun target => ∀ part ∈ target.name, trait.name part)
      targetRest := by
  refine .skip fun temporary => .skip fun unlogged => .skip fun tableKeyword => ?_
  exact .step ensures_qualifiedName fun name holds => .pure holds

theorem ensures_exprsInParens :
    Ensures dialect trait.tokens (fun items => ∀ item ∈ items, trait.expr item)
      (exprsInParens grammar) := by
  refine .skip fun _ => .skip fun empty => .ite (fun _ => .pure (by simp)) fun _ => ?_
  exact .step ensures_exprs fun items holds => .skip fun _ => .pure holds

theorem ensures_groupingSet :
    Ensures dialect trait.tokens trait.expr (groupingSet grammar) := by
  refine .skip fun ahead => .ite (fun _ => ?_) fun _ => ?_
  · exact .step ensures_exprsInParens fun items holds => .pure (closed.expr_tuple holds)
  · exact .step rules.expr fun item holds => .pure (closed.expr_tuple (by simpa using holds))

theorem ensures_groupItem : Ensures dialect trait.tokens trait.expr (groupItem grammar) := by
  have sets {item : Parser Expr} (kind : Grouping)
      (items : Ensures dialect trait.tokens trait.expr item) :
      Ensures dialect trait.tokens trait.expr
        (do return Expr.grouping kind (← parenthesized (commaSeparated item))) :=
    .step (ensures_parenthesized (ensures_commaSeparated items)) fun sets holds =>
      .pure (closed.expr_grouping holds)
  have tuples : Ensures dialect trait.tokens trait.expr (Expr.tuple <$> exprsInParens grammar) :=
    ensures_exprsInParens.map fun items holds => closed.expr_tuple holds
  refine .skip fun known => .ite (fun _ => ?_) fun _ => rules.expr
  refine .skip fun grouped => .ite (fun _ => sets _ tuples) fun _ => ?_
  refine .skip fun cube => .ite (fun _ => sets _ ensures_groupingSet) fun _ => ?_
  exact .skip fun rollup => .ite (fun _ => sets _ ensures_groupingSet) fun _ => rules.expr

theorem ensures_namedWindow :
    Ensures dialect trait.tokens (fun found => trait.name found.1 ∧ trait.window found.2)
      (namedWindow grammar) := by
  refine .step ensures_ident fun name holdsName => .skip fun _ => .skip fun _ => ?_
  exact .step (ensures_windowSpec ensures_intervalRule) fun window holds =>
    .pure ⟨holdsName, holds⟩

theorem ensures_selectRest :
    Ensures dialect trait.tokens trait.selection (selectRest grammar) := by
  refine .step ensures_allOrDistinct ?_
  rintro ⟨distinctness, distinctOn⟩ holdsDistinctOn
  refine .step (ensures_after _ ensures_topRest) fun top holdsTop => ?_
  refine .step (ensures_commaSeparated ensures_selectItem) fun items holdsItems => ?_
  refine .step (ensures_after _ ensures_targetRest) fun target holdsTarget => ?_
  refine .step (ensures_listAfter _ (ensures_commaSeparated rules.source))
    fun sources holdsSources => ?_
  refine .step (ensures_many ensures_lateralView) fun views holdsViews => ?_
  refine .step (ensures_after _ rules.expr) fun condition holdsCondition => ?_
  refine .skip fun grouped => ?_
  extract_lets all
  have alls : ∀ groupAll, Ensures dialect trait.tokens trait.selection (all groupAll) := by
    intro groupAll
    unfold all
    extract_lets selected
    have selects : ∀ groupBy : List Expr, (∀ item ∈ groupBy, trait.expr item) →
        Ensures dialect trait.tokens trait.selection (selected groupBy) := by
      intro groupBy holdsGroupBy
      have lists (words : List Keyword) : Ensures dialect trait.tokens
          (fun items => ∀ item ∈ items, trait.expr item)
          (listAfter words (commaSeparated grammar.expr)) :=
        ensures_listAfter words ensures_exprs
      refine .step (lists _) fun clusterBy holdsClusterBy => ?_
      refine .step (lists _) fun distributeBy holdsDistributeBy => ?_
      refine .step (lists _) fun sortBy holdsSortBy => ?_
      refine .step (ensures_after _ rules.expr) fun having' holdsHaving => ?_
      refine .step (ensures_listAfter _ (ensures_commaSeparated ensures_namedWindow))
        fun windows holdsWindows => ?_
      refine .step (ensures_after _ rules.expr) fun qualify holdsQualify => .pure ?_
      exact closed.selection_parts
        { distinctOn := holdsDistinctOn
          top := Option.forall_mem_map.2 holdsTop
          items := holdsItems
          target := holdsTarget
          sources := holdsSources
          views := holdsViews
          condition := holdsCondition
          groupBy := holdsGroupBy
          clusterBy := holdsClusterBy
          distributeBy := holdsDistributeBy
          sortBy := holdsSortBy
          having' := holdsHaving
          windowNames := List.forall_mem_map.2 fun found member => (holdsWindows found member).1
          windows := List.forall_mem_map.2 fun found member => (holdsWindows found member).2
          qualify := holdsQualify }
    clear_value selected
    exact .perhaps (ensures_commaSeparated ensures_groupItem) (by simp) selects
  clear_value all
  exact .perhaps (Reads.ensures dialect trait.tokens) trivial fun groupAll _ => alls groupAll

/-! ## Bodies -/

theorem ensures_writtenRow :
    Ensures dialect trait.tokens
      (fun found => ∃ items, found.2 = .tuple items ∧ ∀ item ∈ items, trait.expr item)
      (writtenRow grammar) := by
  refine .skip fun rowKeyword => .skip fun known => ?_
  extract_lets listed
  have lists : ∀ items : List Expr, (∀ item ∈ items, trait.expr item) →
      Ensures dialect trait.tokens
        (fun found => ∃ items, found.2 = .tuple items ∧ ∀ item ∈ items, trait.expr item)
        (listed items) :=
    fun items holds => .pure ⟨items, rfl, holds⟩
  clear_value listed
  refine .ite (fun _ => .step ensures_exprsInParens lists) fun _ => ?_
  exact .step (ensures_parenthesized ensures_exprs) lists

theorem ensures_valuesRest : Ensures dialect trait.tokens trait.body (valuesRest grammar) :=
  .step (ensures_commaSeparated ensures_writtenRow) fun _ holds =>
    .pure (closed.body_values (List.forall_mem_map.2 holds))

omit rules in
theorem ensures_tableBody : Ensures dialect trait.tokens trait.body tableBody := by
  refine .step ensures_next fun first token => .skip fun second => ?_
  refine .step ensures_next fun third lastToken => ?_
  split
  next schema name isSchema _ isName =>
    have text := closed.text_word (token _ isSchema)
    exact .pure (closed.body_table (by simpa using text) (closed.text_word (lastToken _ isName)))
  · exact ensures_expectedAt _ _
  · exact ensures_expectedAt _ _
  next isName _ _ => exact .pure (closed.body_table (by simp) (closed.text_word (token _ isName)))
  · exact ensures_expectedAt _ _

instance : Reads setOperator := by
  unfold setOperator
  refine @Reads.bind _ _ _ _ _ fun found => ?_
  split <;> infer_instance

instance (operator : SetOperator) : Reads (setQuantifier operator) := by
  unfold setQuantifier
  extract_lets union
  have : Reads union := .pure _
  clear_value union
  refine ⟨fun dialect safe _ => .skip fun distinctByName => ?_⟩
  refine .ite (fun _ => .pure trivial) fun _ => ?_
  refine .skip fun byName => .ite (fun _ => .pure trivial) fun _ => .skip fun all => ?_
  exact .ite (fun _ => Reads.ensures _ _) fun _ => Reads.ensures _ _

theorem ensures_setOperationsUpTo (least bound : Nat) {body : Body} (holds : trait.body body) :
    Ensures dialect trait.tokens trait.body (setOperationsUpTo grammar least bound body) := by
  induction bound generalizing body with
  | zero => exact .pure holds
  | succ bound ih =>
      refine .skip fun operator => ?_
      split
      · exact .pure holds
      refine .ite (fun _ => .pure holds) fun _ => .skip fun _ => .skip fun quantifier => ?_
      exact .step (rules.body _) fun right holdsRight =>
        ih (closed.body_operation holds holdsRight)

theorem ensures_bodyRule (least : Nat) :
    Ensures dialect trait.tokens trait.body (bodyRule grammar least) := by
  refine .skip fun selects => ?_
  extract_lets extended
  have extends' : ∀ body : Body, trait.body body →
      Ensures dialect trait.tokens trait.body (extended body) :=
    fun body holds => .skip fun tokens => ensures_setOperationsUpTo _ _ holds
  clear_value extended
  refine .ite (fun _ => ?_) fun _ => .skip fun opened => .ite (fun _ => ?_) fun _ => ?_
  · have selection : Ensures dialect trait.tokens trait.body (Body.select <$> selectRest grammar) :=
      ensures_selectRest.map fun selection holds => closed.body_select holds
    exact .step selection extends'
  · refine .step rules.query fun query holds => .skip fun _ => ?_
    exact .given (extends' _ (closed.body_query holds))
  refine .skip fun values => .ite (fun _ => .step ensures_valuesRest extends') fun _ => ?_
  refine .skip fun table => .ite (fun _ => .step ensures_tableBody extends') fun _ => ?_
  exact .step (ensures_expected _) extends'

/-! ## Queries -/

theorem ensures_definition :
    Ensures dialect trait.tokens trait.definition (definition grammar) := by
  refine .step ensures_ident fun name holdsName => .skip fun ahead => ?_
  extract_lets defined
  have defines : ∀ columns : List Ident, (∀ column ∈ columns, trait.name column) →
      Ensures dialect trait.tokens trait.definition (defined columns) := by
    intro columns holdsColumns
    refine .skip fun _ => .step (ensures_parenthesized rules.query) fun query holds => ?_
    exact .step (ensures_after _ ensures_ident) fun origin holdsOrigin =>
      .pure (closed.definition_query ⟨holdsName, holdsColumns⟩ holds holdsOrigin)
  clear_value defined
  exact .ite (fun _ => .given (defines _ (by simp))) fun _ =>
    .step ensures_optionalColumns defines

theorem ensures_offsetRest :
    Ensures dialect trait.tokens (fun found => trait.expr found.1) (offsetRest grammar) := by
  refine .step rules.expr fun value holds => ?_
  refine .skip fun row => .ite (fun _ => .pure holds) fun _ => ?_
  exact .skip fun rows => .ite (fun _ => .pure holds) fun _ => .pure holds

/-- Whether a limit and an offset have a trait. -/
def Range.Has (trait : Trait) (range : Range) : Prop :=
  (∀ value ∈ range.limit, trait.expr value) ∧ ∀ found ∈ range.offset, trait.expr found.1

theorem ensures_rangeRound {range : Range} (holds : range.Has trait) :
    Ensures dialect trait.tokens (Range.Has trait) (rangeRound grammar range) := by
  refine .skip fun limited => ?_
  extract_lets continued
  have continues : ∀ limit : Option Expr, (∀ value ∈ limit, trait.expr value) →
      Ensures dialect trait.tokens (Range.Has trait) (continued limit) := by
    intro limit holdsLimit
    refine .skip fun skipping => ?_
    extract_lets finished
    have finishes : ∀ offset : Option (Expr × OffsetUnit),
        (∀ found ∈ offset, trait.expr found.1) →
        Ensures dialect trait.tokens (Range.Has trait) (finished offset) := by
      intro offset holdsOffset
      unfold finished
      split
      next first =>
        refine .skip fun comma => .ite (fun _ => ?_) fun _ => .pure ⟨holdsLimit, by simp⟩
        refine .step rules.expr fun limit holds => .pure ⟨by simpa using holds, ?_⟩
        simpa using holdsLimit
      next => exact .pure ⟨holdsLimit, holdsOffset⟩
    clear_value finished
    have skipped : Ensures dialect trait.tokens
        (fun offset => ∀ found ∈ offset, trait.expr found.1) (some <$> offsetRest grammar) :=
      ensures_offsetRest.map fun found holds => by simpa using holds
    exact .perhaps skipped holds.2 finishes
  clear_value continued
  exact .perhaps ensures_limitValue holds.1 continues

omit rules in
theorem ensures_fetchRest :
    Ensures dialect trait.tokens
      (fun fetch => ∀ quantity ∈ fetch.quantity, trait.literal quantity) fetchRest := by
  refine .skip fun _ => .skip fun short => ?_
  extract_lets ended
  have ends : ∀ found : Option Literal × Bool,
      (∀ quantity ∈ found.1, trait.literal quantity) →
      Ensures dialect trait.tokens
        (fun fetch => ∀ quantity ∈ fetch.quantity, trait.literal quantity) (ended found) := by
    rintro ⟨quantity, percent⟩ holds
    refine .skip fun only => .ite (fun _ => .pure holds) fun _ => ?_
    exact .skip fun ties => .ite (fun _ => .pure holds) fun _ => ensures_expected _
  clear_value ended
  refine .ite (fun _ => .given (ends _ (by simp))) fun _ => ?_
  refine .step ensures_literal fun quantity holds => .skip fun percent => .skip fun _ => ?_
  exact .given (ends _ (by simpa using holds))

omit rules in
/-- Rows are never locked for updates, since that is said with a forbidden word. -/
theorem ensures_lock :
    Ensures dialect trait.tokens (fun found => ∀ lock ∈ found, trait.OfLock lock) lock := by
  refine .skip fun locks => .ite (fun _ => ?_) fun _ => .pure (by simp)
  refine .step (ensures_expectOneOf closed.harmless _) fun kind ⟨_, allowed⟩ => ?_
  have shared : (kind == "UPDATE") = false := by
    rw [beq_eq_false_iff_ne]
    rintro rfl
    exact allowed (by decide)
  refine .step (ensures_after _ ensures_qualifiedName) fun table holdsTable => .skip fun now => ?_
  extract_lets waited
  have waits : ∀ waiting : Option String, (∀ words ∈ waiting, Innocent words) →
      Ensures dialect trait.tokens (fun found => ∀ lock ∈ found, trait.OfLock lock)
        (waited waiting) := by
    intro waiting innocent
    refine .pure ?_
    rintro _ ⟨⟩
    exact ⟨shared, holdsTable, fun words isWaiting =>
      closed.text_innocent (innocent words isWaiting)⟩
  clear_value waited
  refine .ite (fun _ => .given (waits _ ?_)) fun _ => .skip fun skips => ?_
  · decide
  refine .ite (fun _ => .given (waits _ ?_)) fun _ => .given (waits _ ?_) <;> decide

theorem ensures_queryTail (recursive : Bool) {definitions : List Definition} {body : Body}
    (holdsDefinitions : ∀ definition ∈ definitions, trait.definition definition)
    (holds : trait.body body) :
    Ensures dialect trait.tokens trait.query
      (queryTail grammar recursive definitions body) := by
  refine .step ensures_optionalOrder fun order holdsOrder => ?_
  refine .step (ensures_rangeRound ⟨by simp, by simp⟩) fun first holdsFirst => ?_
  refine .step (ensures_rangeRound holdsFirst) fun range holdsRange => ?_
  refine .skip fun known => ?_
  extract_lets finished
  have finishes : ∀ limitBy : List Expr, (∀ item ∈ limitBy, trait.expr item) →
      Ensures dialect trait.tokens trait.query (finished limitBy) := by
    intro limitBy holdsLimitBy
    refine .step (ensures_after _ ensures_fetchRest) fun fetch holdsFetch => ?_
    refine .step (ensures_many ensures_lock) fun locks holdsLocks => .pure ?_
    exact closed.query_clauses
      { definitions := holdsDefinitions
        body := holds
        order := holdsOrder
        limit := holdsRange.1
        limitBy := holdsLimitBy
        offset := Option.forall_mem_map.2 holdsRange.2
        fetch := holdsFetch
        locks := holdsLocks }
  clear_value finished
  exact .perhaps (ensures_listAfter _ ensures_exprs) (by simp) finishes

/-- A query neither begins with `INSERT` nor with `UPDATE`, whatever follows these words. -/
theorem ensures_queryRule (insert update : Parser String) :
    Ensures dialect trait.tokens trait.query (queryRule grammar insert update) := by
  have absent (word : Keyword) (forbidden : word ∈ forbiddenWords) :
      Ensures dialect trait.tokens (fun found => found = false) (keyword word) :=
    ensures_keyword_forbidden closed.harmless forbidden
  refine ensures_nested (.skip fun defines => ?_)
  extract_lets continued
  have continues : ∀ recursive,
      Ensures dialect trait.tokens trait.query (continued recursive) := by
    intro recursive
    unfold continued
    extract_lets finished
    have finishes : ∀ definitions : List Definition,
        (∀ definition ∈ definitions, trait.definition definition) →
        Ensures dialect trait.tokens trait.query (finished definitions) := by
      intro definitions holdsDefinitions
      unfold finished
      extract_lets change
      refine .step (absent "INSERT" (by decide)) fun found missing => ?_
      subst missing
      refine .step (absent "UPDATE" (by decide)) fun found missing => ?_
      subst missing
      exact .step (rules.body 0) fun body holds => ensures_queryTail _ holdsDefinitions holds
    clear_value finished
    exact .perhaps (ensures_commaSeparated ensures_definition) (by simp) finishes
  clear_value continued
  exact .perhaps (Reads.ensures dialect trait.tokens) trivial fun recursive _ => continues recursive

end Querent.Sql.Parser

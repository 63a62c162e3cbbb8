import Querent.Proofs.Sql.Grammar.Name
import Querent.Sql.Grammar.Expression

/-!
# Expressions have a trait

Where the rules that an expression refers to read parts with a closed trait, the rules for expressions
do so too.  One lemma for each rule follows the rule step by step.
-/

namespace Querent.Sql

/-- Whether the rules that other rules refer to read parts with a trait. -/
class Trait.Rules (dialect : Dialect) (trait : Trait) (grammar : Grammar) : Prop where
  expr : Ensures dialect trait.tokens trait.expr grammar.expr
  operand : ∀ least, Ensures dialect trait.tokens trait.expr (grammar.operand least)
  type : Ensures dialect trait.tokens (fun found => trait.type found.1) grammar.type
  query : Ensures dialect trait.tokens trait.query grammar.query
  body : ∀ least, Ensures dialect trait.tokens trait.body (grammar.body least)
  relation : Ensures dialect trait.tokens trait.relation grammar.relation
  source : Ensures dialect trait.tokens trait.source grammar.source

namespace Parser

variable {dialect : Dialect} {trait : Trait} {grammar : Grammar} [closed : trait.Closed dialect]
  [rules : trait.Rules dialect grammar]

/-! ## Lists of expressions, orders and arguments -/

theorem ensures_exprs :
    Ensures dialect trait.tokens (fun items => ∀ item ∈ items, trait.expr item)
      (commaSeparated grammar.expr) :=
  ensures_commaSeparated rules.expr

omit closed in
theorem ensures_someExpr :
    Ensures dialect trait.tokens (fun found => ∀ value ∈ found, trait.expr value)
      (some <$> grammar.expr) :=
  rules.expr.map fun value holds => by simpa using holds

theorem ensures_orderItem : Ensures dialect trait.tokens trait.order (orderItem grammar) := by
  refine .step rules.expr fun key holds => ?_
  refine .skip fun ascends => ?_
  extract_lets ordered
  have orders : ∀ ascending, Ensures dialect trait.tokens trait.order (ordered ascending) := by
    intro ascending
    refine .skip fun first => ?_
    extract_lets placed
    have places : ∀ nullsFirst, Ensures dialect trait.tokens trait.order (placed nullsFirst) :=
      fun _ => .pure (closed.order_key holds)
    clear_value placed
    refine .ite (fun _ => .given (places _)) fun _ => ?_
    exact .skip fun last => .ite (fun _ => .given (places _)) fun _ => .given (places _)
  clear_value ordered
  refine .ite (fun _ => .given (orders _)) fun _ => ?_
  exact .skip fun descends => .ite (fun _ => .given (orders _)) fun _ => .given (orders _)

theorem ensures_optionalOrder :
    Ensures dialect trait.tokens (fun items => ∀ item ∈ items, trait.order item)
      (optionalOrder grammar) :=
  ensures_listAfter _ (ensures_commaSeparated ensures_orderItem)

theorem ensures_limitValue :
    Ensures dialect trait.tokens (fun found => ∀ value ∈ found, trait.expr value)
      (limitValue grammar) := by
  refine .skip fun all => .ite (fun _ => .pure (by simp)) fun _ => ?_
  exact .step rules.expr fun value holds => .pure (by simpa using holds)

omit rules in
theorem ensures_wildcardPathUpTo (bound : Nat) {path : List Ident}
    (holds : ∀ part ∈ path, trait.name part) :
    Ensures dialect trait.tokens (fun found => ∀ path ∈ found, ∀ part ∈ path, trait.name part)
      (wildcardPathUpTo bound path) := by
  induction bound generalizing path with
  | zero => exact .pure (by simp)
  | succ bound ih =>
      have longer : ∀ {name : Ident}, trait.name name →
          ∀ part ∈ path ++ [name], trait.name part := fun holdsName =>
        List.forall_mem_append.2 ⟨holds, by simpa using holdsName⟩
      refine .skip fun period => .ite (fun _ => ?_) fun _ => .pure (by simp)
      refine .step ensures_next fun found token => ?_
      split
      next isWord => exact ih (longer (closed.name_word (token _ isWord)))
      next isQuoted =>
        exact ih (longer (closed.name_quoted (closed.text_quoted (token _ isQuoted)) (.inl rfl)))
      next => exact .pure (by simpa using holds)
      next => exact ensures_expectedAt _ _

theorem ensures_exprOrWildcard :
    Ensures dialect trait.tokens trait.expr (exprOrWildcard grammar) := by
  refine .step .get fun start isSafe => ?_
  refine .step ensures_next fun found token => ?_
  extract_lets first
  have names : ∀ name ∈ first, trait.name name := by
    intro name isFirst
    unfold first at isFirst
    split at isFirst
    next isWord =>
      cases isFirst
      exact closed.name_word (token _ isWord)
    next isQuoted =>
      cases isFirst
      exact closed.name_quoted (closed.text_quoted (token _ isQuoted)) (.inl rfl)
    next => cases isFirst
  clear_value first
  split
  next name =>
    have single : ∀ part ∈ [name], trait.name part := by
      simpa using names name rfl
    refine .step (ensures_wildcardPathUpTo _ single) fun path holds => ?_
    split
    next path => exact .pure (closed.expr_qualifiedWildcard.2 (holds path rfl))
    next => exact .restore isSafe rules.expr
  · exact .pure closed.expr_wildcard
  · exact .restore isSafe rules.expr

theorem ensures_argument : Ensures dialect trait.tokens trait.expr (argument grammar) := by
  refine .skip fun arrow => .ite (fun _ => ?_) fun _ => ensures_exprOrWildcard
  refine .step ensures_ident fun name holdsName => .skip fun _ => ?_
  exact .step ensures_exprOrWildcard fun value holds =>
    .pure (closed.expr_argument holdsName holds)

theorem ensures_arguments :
    Ensures dialect trait.tokens (fun items => ∀ item ∈ items, trait.expr item)
      (arguments grammar) := by
  refine .skip fun closed => .ite (fun _ => .pure (by simp)) fun _ => ?_
  exact .step (ensures_commaSeparated ensures_argument) fun items holds =>
    .skip fun _ => .pure holds

theorem ensures_orderedArguments :
    Ensures dialect trait.tokens
      (fun found => (∀ item ∈ found.1, trait.expr item) ∧ ∀ item ∈ found.2, trait.order item)
      (orderedArguments grammar) := by
  refine .skip fun closed => .ite (fun _ => .pure (by simp)) fun _ => ?_
  refine .step (ensures_commaSeparated ensures_argument) fun items holds => ?_
  exact .step ensures_optionalOrder fun order holdsOrder =>
    .skip fun _ => .pure ⟨holds, holdsOrder⟩

theorem ensures_allOrDistinct :
    Ensures dialect trait.tokens (fun found => ∀ item ∈ found.2, trait.expr item)
      (allOrDistinct grammar) := by
  refine .skip fun start => .skip fun all => .skip fun distinct => ?_
  refine .ite (fun _ => .ite (fun _ => .throw _) fun _ => ?_) fun _ => .pure (by simp)
  refine .skip fun on => .ite (fun _ => ?_) fun _ => .pure (by simp)
  refine .skip fun _ => .skip fun closed => .ite (fun _ => .pure (by simp)) fun _ => ?_
  exact .step ensures_exprs fun items holds => .skip fun _ => .pure holds

omit rules in
theorem ensures_unit :
    Ensures dialect trait.tokens (fun found => ∀ word ∈ found, trait.text word) unit := by
  refine .skip fun found => ?_
  split
  · refine .ite (fun _ => ?_) fun _ => .pure (by simp)
    exact ensures_timeField.map fun word holds => by simpa using holds
  · exact .pure (by simp)

omit rules in
theorem ensures_intervalRest {value : Expr} (holds : trait.expr value) :
    Ensures dialect trait.tokens trait.expr (intervalRest value) := by
  refine .step ensures_unit fun leading unit => .ite (fun _ => ?_) fun _ => ?_
  · exact .skip fun sizes => .pure (closed.expr_interval holds unit (by simp))
  refine .skip fun whole => .skip fun ranges => .ite (fun _ => ?_) fun _ => ?_
  · refine .step ensures_timeField fun last text => ?_
    have interval (fraction : Option Nat) : Ensures dialect trait.tokens trait.expr
        (pure (.interval value leading whole (some last) fraction) : Parser Expr) :=
      .pure (closed.expr_interval holds unit (by simpa using text))
    exact .ite (fun _ => .skip fun _ => interval _) fun _ => .given (interval _)
  · exact .pure (closed.expr_interval holds unit (by simp))

/-! ## Windows and calls -/

section Interval

variable {interval : Parser Expr} (intervals : Ensures dialect trait.tokens trait.expr interval)

include intervals

theorem ensures_bound : Ensures dialect trait.tokens trait.bound (bound grammar interval) := by
  refine .skip fun current => .ite (fun _ => .pure closed.bound_currentRow) fun _ => ?_
  refine .skip fun unbounded => ?_
  extract_lets ended
  have ends : ∀ distance : Option Expr, (∀ value ∈ distance, trait.expr value) →
      Ensures dialect trait.tokens trait.bound (ended distance) := by
    intro distance holds
    refine .skip fun preceding => .ite (fun _ => .pure (closed.bound_preceding holds)) fun _ => ?_
    refine .skip fun following => .ite (fun _ => .pure (closed.bound_following holds)) fun _ => ?_
    exact ensures_expected _
  clear_value ended
  refine .ite (fun _ => .given (ends _ (by simp))) fun _ => ?_
  refine .skip fun found => ?_
  split
  · have distances : Ensures dialect trait.tokens
        (fun found => ∀ value ∈ found, trait.expr value) (some <$> interval) :=
      intervals.map fun value holds => by simpa using holds
    exact .step distances ends
  · exact .step ensures_someExpr ends

instance : Reads frameUnits := by
  unfold frameUnits
  refine @Reads.bind _ _ _ _ _ fun found => ?_
  split <;> infer_instance

theorem ensures_windowSpec :
    Ensures dialect trait.tokens trait.window (windowSpec grammar interval) := by
  refine .step (ensures_listAfter _ ensures_exprs) fun partition holds => ?_
  refine .step ensures_optionalOrder fun order holdsOrder => ?_
  refine .skip fun finished => .ite (fun _ => ?_) fun _ => ?_
  · exact .pure
      (closed.window_spec holds holdsOrder closed.bound_unstated closed.bound_unstated)
  refine .skip fun units => .skip fun between => .ite (fun _ => ?_) fun _ => ?_
  · refine .step (ensures_bound intervals) fun start holdsStart => .skip fun _ => ?_
    refine .step (ensures_bound intervals) fun finish holdsFinish => .skip fun _ => ?_
    exact .pure (closed.window_spec holds holdsOrder holdsStart holdsFinish)
  · refine .step (ensures_bound intervals) fun start holdsStart => .skip fun _ => ?_
    exact .pure (closed.window_spec holds holdsOrder holdsStart closed.bound_unstated)

theorem ensures_overWindow :
    Ensures dialect trait.tokens (fun found => ∀ window ∈ found, trait.window window)
      (overWindow grammar interval) := by
  refine .skip fun windowed => .ite (fun _ => ?_) fun _ => .pure (by simp)
  refine .skip fun opened => .ite (fun _ => ?_) fun _ => ?_
  · exact .step (ensures_windowSpec intervals) fun window holds => .pure (by simpa using holds)
  · exact .step ensures_ident fun name holds =>
      .pure (by simpa using closed.window_named holds)

omit intervals in
theorem ensures_aggregateFilter :
    Ensures dialect trait.tokens (fun found => ∀ value ∈ found, trait.expr value)
      (aggregateFilter grammar) := by
  refine .skip fun dialect => .ite (fun _ => ?_) fun _ => .pure (by simp)
  refine .skip fun filter => .ite (fun _ => ?_) fun _ => .pure (by simp)
  refine .skip fun opened => .ite (fun _ => ?_) fun _ => .pure (by simp)
  refine .skip fun filtering => .ite (fun _ => ?_) fun _ => .pure (by simp)
  refine .step rules.expr fun condition holds => .skip fun _ => ?_
  exact .pure (by simpa using holds)

omit closed rules intervals in
instance : Reads nullTreatment := by
  unfold nullTreatment
  refine @Reads.bind _ _ _ _ _ fun found => ?_
  split <;> infer_instance

/-- A call is no value that is written out. -/
theorem ensures_call {name : QualifiedName} (names : ∀ part ∈ name, trait.name part) :
    Ensures dialect trait.tokens (fun e => trait.expr e ∧ ∀ value, e ≠ .literal value)
      (call grammar interval name) := by
  refine .skip fun _ => .step ensures_allOrDistinct fun distinctness _ => ?_
  refine .step ensures_orderedArguments fun found holds => ?_
  refine .step ensures_aggregateFilter fun filter holdsFilter => ?_
  refine .skip fun nulls => .step (ensures_overWindow intervals) fun window holdsWindow => ?_
  exact .pure ⟨closed.expr_call names holds.1 holds.2 holdsFilter holdsWindow, nofun⟩

end Interval

theorem ensures_timeFunction {name : Ident} (holdsName : trait.name name) :
    Ensures dialect trait.tokens trait.expr (timeFunction grammar name) := by
  have names : ∀ part ∈ [name], trait.name part := by
    simpa using holdsName
  refine .skip fun opened => .ite (fun _ => ?_) fun _ => ?_
  · exact .step ensures_orderedArguments fun found holds =>
      .pure (closed.expr_call names holds.1 holds.2 (by simp) (by simp))
  · exact .pure (closed.expr_call names (by simp) (by simp) (by simp) (by simp))

/-! ## Special forms -/

theorem ensures_caseBranchesUpTo (bound : Nat) :
    Ensures dialect trait.tokens
      (fun branches => ∀ branch ∈ branches, trait.expr branch.1 ∧ trait.expr branch.2)
      (caseBranchesUpTo grammar bound) := by
  induction bound with
  | zero => exact .pure (by simp)
  | succ bound ih =>
      refine .step rules.expr fun condition holds => .skip fun _ => ?_
      refine .step rules.expr fun result holdsResult => .skip fun more => ?_
      refine .ite (fun _ => ?_) fun _ => .pure (by simpa using ⟨holds, holdsResult⟩)
      exact .step ih fun rest holdsRest =>
        .pure (List.forall_mem_cons.2 ⟨⟨holds, holdsResult⟩, holdsRest⟩)

theorem ensures_caseRest : Ensures dialect trait.tokens trait.expr (caseRest grammar) := by
  refine .skip fun without => ?_
  extract_lets cased
  have cases' : ∀ operand : Option Expr, (∀ value ∈ operand, trait.expr value) →
      Ensures dialect trait.tokens trait.expr (cased operand) := by
    intro operand holds
    refine .skip fun tokens => .step (ensures_caseBranchesUpTo _) fun branches holdsBranches => ?_
    refine .step (ensures_after _ rules.expr) fun otherwise holdsOtherwise => .skip fun _ => ?_
    refine .pure (closed.expr_case holds ?_ ?_ holdsOtherwise)
    · exact List.forall_mem_map.2 fun branch member => (holdsBranches branch member).1
    · exact List.forall_mem_map.2 fun branch member => (holdsBranches branch member).2
  clear_value cased
  refine .ite (fun _ => .given (cases' _ (by simp))) fun _ => ?_
  refine .step rules.expr fun operand holds => .skip fun _ => ?_
  exact .given (cases' _ (by simpa using holds))

omit rules in
theorem ensures_castFormat :
    Ensures dialect trait.tokens (fun found => ∀ format ∈ found, trait.OfFormat format)
      castFormat := by
  refine .skip fun formats => .ite (fun _ => ?_) fun _ => .pure (by simp)
  refine .step ensures_literal fun value holds => .skip fun zoned => .ite (fun _ => ?_) fun _ => ?_
  · exact .step ensures_literal fun zone holdsZone =>
      .pure (by simpa [Trait.OfFormat] using ⟨holds, holdsZone⟩)
  · exact .pure (by simpa [Trait.OfFormat] using holds)

theorem ensures_castRest (kind : Cast) :
    Ensures dialect trait.tokens trait.expr (castRest grammar kind) := by
  refine ensures_parenthesized (.step rules.expr fun operand holds => .skip fun _ => ?_)
  refine .step (ensures_dataType rules.type) fun type holdsType => ?_
  exact .step ensures_castFormat fun format holdsFormat =>
    .pure (closed.expr_cast holds holdsType holdsFormat)

theorem ensures_extractRest : Ensures dialect trait.tokens trait.expr (extractRest grammar) := by
  refine ensures_parenthesized (.step ensures_timeField fun field text => .skip fun _ => ?_)
  exact .step rules.expr fun operand holds => .pure (closed.expr_extract text holds)

theorem ensures_roundRest (up : Bool) :
    Ensures dialect trait.tokens trait.expr (roundRest grammar up) := by
  refine ensures_parenthesized (.step rules.expr fun operand holds => ?_)
  exact .step (ensures_after _ ensures_timeField) fun field texts =>
    .pure (closed.expr_round holds texts)

theorem ensures_positionRest : Ensures dialect trait.tokens trait.expr (positionRest grammar) := by
  refine .skip fun _ => .step (rules.operand _) fun needle holds => .skip fun found => ?_
  refine .ite (fun _ => ?_) fun _ => ensures_refuse _
  refine .step rules.expr fun haystack holdsHaystack => .skip fun _ => ?_
  exact .pure (closed.expr_position holds holdsHaystack)

theorem ensures_substringRest : Ensures dialect trait.tokens trait.expr (substringRest grammar) := by
  refine ensures_parenthesized (.step rules.expr fun operand holds => ?_)
  extract_lets part
  have parts : ∀ word, Ensures dialect trait.tokens
      (fun found => ∀ value ∈ found, trait.expr value) (part word) := by
    intro word
    refine .skip fun found => .ite (fun _ => ?_) fun _ => .pure (by simp)
    exact .step rules.expr fun value holds => .pure (by simpa using holds)
  clear_value part
  refine .step (parts _) fun start holdsStart => .step (parts _) fun length holdsLength => ?_
  exact .pure (closed.expr_substring holds holdsStart holdsLength)

theorem ensures_overlayRest : Ensures dialect trait.tokens trait.expr (overlayRest grammar) := by
  refine ensures_parenthesized (.step rules.expr fun operand holds => .skip fun _ => ?_)
  refine .step rules.expr fun replacement holdsReplacement => .skip fun _ => ?_
  refine .step rules.expr fun start holdsStart => ?_
  exact .step (ensures_after _ rules.expr) fun length holdsLength =>
    .pure (closed.expr_overlay holds holdsReplacement holdsStart holdsLength)

theorem ensures_trimRest : Ensures dialect trait.tokens trait.expr (trimRest grammar) := by
  refine ensures_parenthesized (.skip fun found => ?_)
  extract_lets trimmed
  have trims : ∀ side, Ensures dialect trait.tokens trait.expr (trimmed side) := by
    intro side
    refine .step rules.expr fun first holds => .skip fun fromKeyword => ?_
    refine .ite (fun _ => ?_) fun _ => ?_
    · exact .step rules.expr fun operand holdsOperand =>
        .pure (closed.expr_trim (by simpa using holds) holdsOperand (by simp))
    refine .skip fun listed => .ite (fun _ => ?_) fun _ => ?_
    · exact .step ensures_exprs fun characters holdsCharacters =>
        .pure (closed.expr_trim (by simp) holds holdsCharacters)
    · exact .pure (closed.expr_trim (by simp) holds (by simp))
  clear_value trimmed
  split <;> exact .given (trims _)

theorem ensures_arrayRest (named : Bool) :
    Ensures dialect trait.tokens trait.expr (arrayRest grammar named) := by
  refine .skip fun empty => .ite (fun _ => .pure (closed.expr_array (by simp))) fun _ => ?_
  exact .step ensures_exprs fun items holds => .skip fun _ => .pure (closed.expr_array holds)

theorem ensures_arrayAggregateRest :
    Ensures dialect trait.tokens trait.expr (arrayAggregateRest grammar) := by
  refine ensures_parenthesized (.skip fun distinct => ?_)
  refine .step rules.expr fun operand holds => ?_
  refine .step ensures_optionalOrder fun order holdsOrder => .skip fun limited => ?_
  extract_lets aggregated
  have aggregates : ∀ limit : Option Expr, (∀ value ∈ limit, trait.expr value) →
      Ensures dialect trait.tokens trait.expr (aggregated limit) :=
    fun limit holdsLimit => .pure (closed.expr_arrayAggregate holds holdsOrder holdsLimit)
  clear_value aggregated
  exact .ite (fun _ => .step ensures_limitValue aggregates) fun _ =>
    .given (aggregates _ (by simp))

omit rules in
/-- A list aggregate cannot truncate its text, since that is said with a forbidden word. -/
theorem ensures_overflowRest :
    Ensures dialect trait.tokens (fun found => found = (.error, none)) (overflowRest grammar) := by
  refine .skip fun error => .ite (fun _ => .pure rfl) fun _ => ?_
  refine .step (ensures_expectKeyword_forbidden closed.harmless ?_) fun _ absurd => absurd.elim
  decide

theorem ensures_listAggregateRest :
    Ensures dialect trait.tokens trait.expr (listAggregateRest grammar) := by
  refine .skip fun _ => .step ensures_allOrDistinct fun distinctness _ => ?_
  refine .step rules.expr fun operand holds => .skip fun separated => ?_
  extract_lets continued
  have continues : ∀ separator : Option Expr, (∀ value ∈ separator, trait.expr value) →
      Ensures dialect trait.tokens trait.expr (continued separator) := by
    intro separator holdsSeparator
    refine .skip fun overflows => ?_
    extract_lets finished
    have finishes : ∀ overflow, overflow = .unstated ∨ overflow = .error →
        Ensures dialect trait.tokens trait.expr (finished (overflow, none)) := by
      intro overflow kept
      refine .skip fun _ => .skip fun within => ?_
      extract_lets ordered
      have orders : ∀ order : List OrderItem, (∀ item ∈ order, trait.order item) →
          Ensures dialect trait.tokens trait.expr (ordered order) := fun order holdsOrder =>
        .pure (closed.expr_listAggregate holds holdsSeparator kept holdsOrder)
      clear_value ordered
      exact .ite (fun _ => .step (ensures_parenthesized ensures_optionalOrder) orders) fun _ =>
        .given (orders _ (by simp))
    clear_value finished
    refine .ite (fun _ => ?_) fun _ => .given (finishes _ (.inl rfl))
    exact .step ensures_overflowRest fun found same => same ▸ finishes _ (.inr rfl)
  clear_value continued
  exact .ite (fun _ => .step ensures_someExpr continues) fun _ =>
    .given (continues _ (by simp))

omit rules in
theorem ensures_searchRest : Ensures dialect trait.tokens trait.expr searchRest := by
  refine .step ensures_columns fun names holdsNames => .skip fun _ => ?_
  refine ensures_parenthesized (.step ensures_literal fun value holds => .skip fun natural => ?_)
  extract_lets searched
  have searches : ∀ mode : Option String, (∀ words ∈ mode, Innocent words) →
      Ensures dialect trait.tokens trait.expr (searched mode) := fun mode innocent =>
    .pure (closed.expr_searchText holdsNames holds fun words isMode =>
      closed.text_innocent (innocent words isMode))
  clear_value searched
  have modes : ∀ words : String, Innocent words →
      Ensures dialect trait.tokens trait.expr (searched (some words)) :=
    fun words innocent => searches _ (by simpa using innocent)
  refine .ite (fun _ => .skip fun expands => ?_) fun _ => ?_
  · exact .ite (fun _ => .given (modes _ (by decide))) fun _ => .given (modes _ (by decide))
  · refine .skip fun boolean => .ite (fun _ => .given (modes _ (by decide))) fun _ => ?_
    exact .skip fun expands => .ite (fun _ => .given (modes _ (by decide))) fun _ =>
      .given (searches _ (by simp))

theorem ensures_recordField :
    Ensures dialect trait.tokens (fun found => trait.OfField found.1) (recordField grammar) := by
  refine .skip fun found => ?_
  extract_lets unnamed named
  have names : ∀ name : Option Ident, (∀ part ∈ name, trait.name part) →
      Ensures dialect trait.tokens (fun found => trait.OfField found.1) (named name) :=
    fun name holds => .step rules.type fun type holdsType => .pure ⟨holds, holdsType⟩
  clear_value named
  refine .ite (fun _ => .given (names _ (by simp))) fun _ => ?_
  have someName : Ensures dialect trait.tokens (fun found => ∀ name ∈ found, trait.name name)
      (some <$> ident) :=
    ensures_ident.map fun name holds => by simpa using holds
  exact .step someName names

theorem ensures_recordFieldsUpTo (bound : Nat) :
    Ensures dialect trait.tokens (fun found => ∀ field ∈ found.1, trait.OfField field)
      (recordFieldsUpTo grammar bound) := by
  induction bound with
  | zero => exact .pure (by simp)
  | succ bound ih =>
      refine .skip fun start => .step ensures_recordField fun found holds => .skip fun comma => ?_
      refine .ite (fun _ => .ite (fun _ => .throw _) fun _ => ?_) fun _ => ?_
      · exact .step ih fun fields holdsFields =>
          .pure (List.forall_mem_cons.2 ⟨holds, holdsFields⟩)
      · exact .pure (by simpa using holds)

theorem ensures_recordRest : Ensures dialect trait.tokens trait.expr (recordRest grammar) := by
  refine .skip fun typed => ?_
  extract_lets recorded
  have records : ∀ fields : List (Option Ident × DataType),
      (∀ field ∈ fields, trait.OfField field) →
      Ensures dialect trait.tokens trait.expr (recorded fields) := by
    intro fields holdsFields
    have value : Ensures dialect trait.tokens trait.expr (do
        let value ← grammar.expr
        if ← keyword "AS" then
          if fields.isEmpty then return Expr.labelled value true (← ident)
          else refuse "Typed syntax does not allow AS"
        else return value) := by
      refine .step rules.expr fun value holds => .skip fun labelled => ?_
      refine .ite (fun _ => .ite (fun _ => ?_) fun _ => ensures_refuse _) fun _ => .pure holds
      exact .step ensures_ident fun name holdsName =>
        .pure (closed.expr_labelled holds holdsName)
    refine ensures_parenthesized (.step (ensures_commaSeparated value) fun values holds => ?_)
    exact .pure (closed.expr_record holdsFields holds)
  clear_value recorded
  refine .ite (fun _ => ?_) fun _ => .given (records _ (by simp))
  refine .skip fun tokens => .step (ensures_recordFieldsUpTo _) fun found holds => ?_
  refine .skip fun shut => .ite (fun _ => ?_) fun _ => .given (records _ holds)
  exact .step (ensures_refuse _) records

/-! ## Names, nested queries and words -/

omit rules in
theorem ensures_namePathUpTo (bound : Nat) {path : List Ident}
    (holds : ∀ part ∈ path, trait.name part) :
    Ensures dialect trait.tokens (fun found => ∀ part ∈ found.1, trait.name part)
      (namePathUpTo bound path) := by
  induction bound generalizing path with
  | zero => exact .pure holds
  | succ bound ih =>
      have longer : ∀ {name : Ident}, trait.name name →
          ∀ part ∈ path ++ [name], trait.name part := fun holdsName =>
        List.forall_mem_append.2 ⟨holds, by simpa using holdsName⟩
      refine .skip fun period => .ite (fun _ => ?_) fun _ => .pure holds
      refine .step ensures_next fun found token => ?_
      split
      next isWord => exact ih (longer (closed.name_word (token _ isWord)))
      next isQuoted =>
        exact ih (longer (closed.name_quoted (closed.text_quoted (token _ isQuoted)) (.inl rfl)))
      next =>
        exact .skip fun dialect => .ite (fun _ => .pure holds) fun _ => ensures_expectedAt _ _
      next => exact ensures_expectedAt _ _

theorem ensures_queryAhead :
    Ensures dialect trait.tokens (fun found => ∀ query ∈ found, trait.query query)
      (queryAhead grammar) := by
  refine .skip fun ahead => .ite (fun _ => ?_) fun _ => .pure (by simp)
  exact .step rules.query fun query holds => .pure (by simpa using holds)

theorem ensures_queryInParens :
    Ensures dialect trait.tokens trait.query (queryInParens grammar) :=
  ensures_parenthesized rules.query

theorem ensures_parenRest : Ensures dialect trait.tokens trait.expr (parenRest grammar) := by
  refine .step ensures_queryAhead fun ahead holds => ?_
  extract_lets ended
  have ends : ∀ inner, trait.expr inner →
      Ensures dialect trait.tokens trait.expr (ended inner) := by
    intro inner holdsInner
    refine .skip fun _ => .skip fun period => .ite (fun _ => ?_) fun _ => .pure holdsInner
    refine .step ensures_next fun found token => ?_
    split
    next isWord => exact .pure (closed.expr_field holdsInner (closed.name_word (token _ isWord)))
    next => exact ensures_expectedAt _ _
  clear_value ended
  split
  next query => exact .given (ends _ (closed.expr_query (holds query rfl)))
  next =>
    refine .step ensures_exprs fun items holdsItems => ?_
    split
    · exact .given (ends _ (closed.expr_nested (by simpa using holdsItems)))
    · exact .given (ends _ (closed.expr_tuple holdsItems))

theorem ensures_negationRest : Ensures dialect trait.tokens trait.expr (negationRest grammar) := by
  refine .skip fun absent => .ite (fun _ => ?_) fun _ => ?_
  · exact .step ensures_queryInParens fun query holds => .pure (closed.expr_exists holds)
  · exact .step (rules.operand _) fun operand holds => .pure (closed.expr_unary holds)

section Interval

variable {interval : Parser Expr} (intervals : Ensures dialect trait.tokens trait.expr interval)

include intervals

theorem ensures_nameRest {word : Word} (token : trait.token (.word word)) :
    Ensures dialect trait.tokens trait.expr (nameRest grammar interval word) := by
  have name := closed.name_word token
  have single : ∀ part ∈ [word.ident], trait.name part := by
    simpa using name
  refine .skip fun found => ?_
  split
  iterate 2
    refine .skip fun tokens => .step (ensures_namePathUpTo _ single) fun path holds => ?_
    refine .ite (fun _ => .pure (closed.expr_qualifiedWildcard.2 holds)) fun _ => ?_
    refine .skip fun ahead => .ite (fun _ => ?_) fun _ => .pure (closed.expr_compound holds)
    exact (ensures_call intervals holds).mono fun _ called => called.1
  iterate 3
    refine .ite (fun _ => ?_) fun _ => .pure (closed.expr_name name)
    exact .step ensures_literal fun value holds =>
      .pure (closed.expr_introduced (closed.text_word token) holds)
  · exact .pure (closed.expr_name name)

theorem ensures_wordRule {word : Word} (token : trait.token (.word word)) {start : List Located}
    (isSafe : trait.tokens start) :
    Ensures dialect trait.tokens trait.expr (wordRule grammar interval word start) := by
  have name : Ensures dialect trait.tokens trait.expr (nameRest grammar interval word) :=
    ensures_nameRest intervals token
  have ident := closed.name_word token
  refine .skip fun known => .skip fun found => ?_
  extract_lets opens
  have literals : Ensures dialect trait.tokens trait.expr
      (do set start; return Expr.literal (← literal)) :=
    .restore isSafe (.step ensures_literal fun value holds => .pure (closed.expr_literal holds))
  split
  iterate 3 exact literals
  iterate 5 exact ensures_timeFunction ident
  · exact ensures_caseRest
  iterate 3 exact ensures_castRest _
  · exact .step ensures_queryInParens fun query holds => .pure (closed.expr_exists holds)
  · exact ensures_extractRest
  iterate 2 exact ensures_roundRest _
  · exact ensures_substringRest
  · exact ensures_overlayRest
  · exact ensures_trimRest
  · exact intervals
  · exact ensures_arrayAggregateRest
  · exact ensures_listAggregateRest
  · exact ensures_negationRest
  · exact .ite (fun _ => ensures_positionRest) fun _ => name
  · refine .skip fun bracket => .ite (fun _ => ensures_arrayRest _) fun _ => ?_
    refine .ite (fun _ => ?_) fun _ => name
    exact .step ensures_queryInParens fun query holds => .pure (closed.expr_arrayQuery holds)
  iterate 4
    refine .ite (fun _ => .pure (closed.expr_call ?_ ?_ ?_ ?_ ?_)) fun _ => name <;>
      simp [ident]
  · exact .ite (fun _ => ensures_searchRest) fun _ => name
  · exact .ite (fun _ => ensures_recordRest) fun _ => name
  · exact name

theorem ensures_typedText :
    Ensures dialect trait.tokens trait.expr (typedText grammar interval) := by
  refine .step (ensures_dataType rules.type) fun type holds => ?_
  split
  · exact intervals
  · exact .throw _
  · exact .step ensures_literalText fun text holdsText => .pure (closed.expr_typed holds holdsText)

omit intervals in
theorem ensures_symbolRule (mark : Symbol) (found : Option Located) {start : List Located}
    (isSafe : trait.tokens start) :
    Ensures dialect trait.tokens trait.expr (symbolRule grammar mark found start) := by
  refine .skip fun known => ?_
  extract_lets value postgresOnly
  have values : Ensures dialect trait.tokens trait.expr value :=
    .restore isSafe (.step ensures_literal fun literal holds => .pure (closed.expr_literal holds))
  have operators : ∀ operator,
      Ensures dialect trait.tokens trait.expr (postgresOnly operator) := by
    intro operator
    refine .ite (fun _ => ?_) fun _ => ensures_expectedAt _ _
    exact .step (rules.operand _) fun operand holds => .pure (closed.expr_unary holds)
  clear_value value postgresOnly
  split
  · exact ensures_arrayRest _
  iterate 2
    exact .step (rules.operand _) fun operand holds => .pure (closed.expr_unary holds)
  iterate 4 exact operators _
  · exact .ite (fun _ => operators _) fun _ => values
  · exact values
  · exact ensures_parenRest
  · exact ensures_expectedAt _ _

theorem ensures_leadingWith :
    Ensures dialect trait.tokens trait.expr (leadingWith grammar interval) := by
  refine .step (ensures_attempt (ensures_typedText intervals)) fun typed holds => ?_
  split
  next typed => exact .pure (holds typed rfl)
  refine .step .get fun start isSafe => .step ensures_next fun found token => ?_
  extract_lets value collated
  have values : Ensures dialect trait.tokens trait.expr value :=
    .restore isSafe (.step ensures_literal fun literal holds => .pure (closed.expr_literal holds))
  have collates : ∀ e, trait.expr e → Ensures dialect trait.tokens trait.expr (collated e) := by
    intro e holds
    refine .skip fun collates => .ite (fun _ => ?_) fun _ => .pure holds
    exact .step ensures_qualifiedName fun name holdsName =>
      .pure (closed.expr_collate holds holdsName)
  clear_value value collated
  split
  next isWord => exact .step (ensures_wordRule intervals (token _ isWord) isSafe) collates
  · exact .step (ensures_symbolRule _ _ isSafe) collates
  · refine .skip fun escapes => .ite (fun _ => .step values collates) fun _ => ?_
    exact .step (ensures_expectedAt _ _) collates
  iterate 4 exact .step values collates
  · exact .step (ensures_expectedAt _ _) collates

end Interval

/-! ## Operators -/

omit rules in
theorem ensures_partsUpTo (bound : Nat) :
    Ensures dialect trait.tokens (fun parts => ∀ part ∈ parts, trait.text part)
      (binaryOperator.partsUpTo bound) := by
  induction bound with
  | zero => exact .pure (by simp)
  | succ bound ih =>
      refine .step ensures_next fun found token => ?_
      extract_lets part
      have text : trait.text part := by
        unfold part
        cases known : tokenOf found with
        | none => exact closed.text_innocent (by decide)
        | some spelled => exact closed.text_token (token spelled known)
      refine .skip fun period => .ite (fun _ => ?_) fun _ => .pure (by simpa using text)
      exact .step ih fun rest holds => .pure (by simpa using ⟨text, holds⟩)

omit rules in
theorem ensures_binaryOperator (token : Token) :
    Ensures dialect trait.tokens (fun found => ∀ operator ∈ found, trait.operator operator)
      (binaryOperator token) := by
  have symbols : ∀ mark : Symbol, Ensures dialect trait.tokens
      (fun found => ∀ operator ∈ found, trait.operator operator)
      (pure (some (.symbol mark)) : Parser (Option BinaryOperator)) := fun mark =>
    .pure (by simpa using closed.operator_symbol)
  have keywords : ∀ word : Keyword, Innocent word → Ensures dialect trait.tokens
      (fun found => ∀ operator ∈ found, trait.operator operator)
      (pure (some (.keyword word)) : Parser (Option BinaryOperator)) := fun word innocent =>
    .pure (by simpa using closed.operator_keyword (closed.text_innocent innocent))
  refine .skip fun known => ?_
  extract_lets only
  have onlys : ∀ dialects mark, Ensures dialect trait.tokens
      (fun found => ∀ operator ∈ found, trait.operator operator)
      (pure (only dialects mark) : Parser (Option BinaryOperator)) := by
    intro dialects mark
    unfold only
    split
    · exact symbols mark
    · exact .pure (by simp)
  clear_value only
  split
  · exact symbols _
  iterate 5 exact onlys _ _
  · exact .ite (fun _ => symbols _) fun _ => .pure (by simp)
  iterate 3 exact keywords _ (by decide)
  · refine .ite (fun _ => ensures_parenthesized (.skip fun tokens => ?_)) fun _ => .pure (by simp)
    exact .step (ensures_partsUpTo _) fun parts holds =>
      .pure (by simpa using closed.operator_named holds)
  · exact .pure (by simp)

theorem ensures_binaryRest {left : Expr} {operator : BinaryOperator} (holds : trait.expr left)
    (holdsOperator : trait.operator operator) (found : Located) (precedence : Nat) :
    Ensures dialect trait.tokens trait.expr
      (binaryRest grammar left operator found precedence) := by
  refine .skip fun quantifier => ?_
  split
  · refine .step (ensures_parenthesized (rules.operand _)) fun right holdsRight => ?_
    exact .ite (fun _ => .pure (closed.expr_quantified holds holdsOperator holdsRight)) fun _ =>
      .throw _
  · exact .step (rules.operand _) fun right holdsRight =>
      .pure (closed.expr_binary holds holdsOperator holdsRight)

theorem ensures_isRest {operand : Expr} (holds : trait.expr operand) :
    Ensures dialect trait.tokens trait.expr (isRest grammar operand) := by
  have tests (negated : Bool) (test : Test) : Ensures dialect trait.tokens trait.expr
      (pure (.test operand negated test) : Parser Expr) :=
    .pure (closed.expr_test holds)
  have distinct (negated : Bool) : Ensures dialect trait.tokens trait.expr
      (do return Expr.distinctFrom operand negated (← grammar.expr)) :=
    .step rules.expr fun right holdsRight => .pure (closed.expr_distinctFrom holds holdsRight)
  unfold isRest
  iterate 8 refine .skip fun found => .ite (fun _ => tests _ _) fun _ => ?_
  iterate 2 refine .skip fun found => .ite (fun _ => distinct _) fun _ => ?_
  exact ensures_expected _

theorem ensures_inRest {operand : Expr} (holds : trait.expr operand) (negated : Bool) :
    Ensures dialect trait.tokens trait.expr (inRest grammar operand negated) := by
  refine .skip fun unnest => .ite (fun _ => ?_) fun _ => ?_
  · exact .step (ensures_parenthesized rules.expr) fun list holdsList =>
      .pure (closed.expr_inUnnest holds holdsList)
  refine ensures_parenthesized (.step ensures_queryAhead fun ahead holdsAhead => ?_)
  split
  next query => exact .pure (closed.expr_inQuery holds (holdsAhead query rfl))
  next =>
    exact .step ensures_exprs fun items holdsItems => .pure (closed.expr_inList holds holdsItems)

theorem ensures_matchingRest {operand : Expr} (holds : trait.expr operand) (negated : Bool)
    (kind : Match) :
    Ensures dialect trait.tokens trait.expr (matchingRest grammar operand negated kind) := by
  refine .step (rules.operand _) fun pattern holdsPattern => ?_
  refine .ite (fun _ => .pure (closed.expr_matching holds holdsPattern (by simp))) fun _ => ?_
  exact .step (ensures_after _ ensures_literalChar) fun escape texts =>
    .pure (closed.expr_matching holds holdsPattern texts)

theorem ensures_comparisonRest {operand : Expr} (holds : trait.expr operand) :
    Ensures dialect trait.tokens trait.expr (comparisonRest grammar operand) := by
  have matching (negated : Bool) (kind : Match) :
      Ensures dialect trait.tokens trait.expr (matchingRest grammar operand negated kind) :=
    ensures_matchingRest holds negated kind
  refine .skip fun negated => ?_
  refine .skip fun regexp => .ite (fun _ => matching _ _) fun _ => ?_
  refine .skip fun rlike => .ite (fun _ => matching _ _) fun _ => ?_
  refine .skip fun within => .ite (fun _ => ensures_inRest holds _) fun _ => ?_
  refine .skip fun between => .ite (fun _ => ?_) fun _ => ?_
  · refine .step (rules.operand _) fun low holdsLow => .skip fun _ => ?_
    exact .step (rules.operand _) fun high holdsHigh =>
      .pure (closed.expr_between holds holdsLow holdsHigh)
  refine .skip fun like => .ite (fun _ => matching _ _) fun _ => ?_
  refine .skip fun ilike => .ite (fun _ => matching _ _) fun _ => ?_
  refine .skip fun similar => .ite (fun _ => matching _ _) fun _ => ?_
  exact ensures_expected _

section Interval

variable {interval : Parser Expr} (intervals : Ensures dialect trait.tokens trait.expr interval)

include intervals

theorem ensures_mapKey : Ensures dialect trait.tokens trait.key (mapKey grammar interval) := by
  refine .step ensures_next fun found token => ?_
  split
  next isWord =>
    have text := closed.text_word (token _ isWord)
    refine .skip fun ahead => .ite (fun _ => ?_) fun _ => .pure (closed.key_text text)
    have name := closed.name_text text
    exact (ensures_call intervals (by simpa using name)).mono fun _ called =>
      closed.key_expr called.1 called.2
  next isQuoted => exact .pure (closed.key_text (closed.text_quoted (token _ isQuoted)))
  next isNumber => exact .pure (closed.key_number (closed.text_number (token _ isNumber)))
  next => exact ensures_expectedAt _ _

theorem ensures_mapKeysUpTo (bound : Nat) :
    Ensures dialect trait.tokens (fun keys => ∀ key ∈ keys, trait.key key)
      (mapKeysUpTo grammar interval bound) := by
  induction bound with
  | zero => exact .pure (by simp)
  | succ bound ih =>
      refine .step (ensures_mapKey intervals) fun key holds => .skip fun _ => .skip fun more => ?_
      refine .ite (fun _ => ?_) fun _ => .pure (by simpa using holds)
      exact .step ih fun rest holdsRest => .pure (by simpa using ⟨holds, holdsRest⟩)

omit intervals in
theorem ensures_indexesUpTo (bound : Nat) :
    Ensures dialect trait.tokens (fun indexes => ∀ index ∈ indexes, trait.expr index)
      (indexesUpTo grammar bound) := by
  induction bound with
  | zero => exact .pure (by simp)
  | succ bound ih =>
      refine .step rules.expr fun index holds => .skip fun _ => .skip fun more => ?_
      refine .ite (fun _ => ?_) fun _ => .pure (by simpa using holds)
      exact .step ih fun rest holdsRest => .pure (by simpa using ⟨holds, holdsRest⟩)

theorem ensures_bracketRest {operand : Expr} (holds : trait.expr operand) :
    Ensures dialect trait.tokens trait.expr (bracketRest grammar interval operand) := by
  refine .skip fun tokens => .skip fun dialect => .ite (fun _ => ?_) fun _ => ?_
  · exact .step (ensures_indexesUpTo _) fun indexes holdsIndexes =>
      .pure (closed.expr_index holds holdsIndexes)
  · refine .step (ensures_mapKeysUpTo intervals _) fun keys holdsKeys => ?_
    split
    · exact .pure (closed.expr_lookup holds holdsKeys)
    · exact .pure (closed.expr_lookup holds holdsKeys)
    · exact .pure holds

theorem ensures_followingRule {operand : Expr} (holds : trait.expr operand) (precedence : Nat) :
    Ensures dialect trait.tokens trait.expr
      (followingRule grammar interval operand precedence) := by
  have binary {operator : BinaryOperator} (holdsOperator : trait.operator operator) :
      Ensures dialect trait.tokens trait.expr
        (do return Expr.binary operand operator (← grammar.expr)) :=
    .step rules.expr fun right holdsRight =>
      .pure (closed.expr_binary holds holdsOperator holdsRight)
  have div : trait.operator (.keyword "DIV") :=
    closed.operator_keyword (closed.text_innocent (by decide))
  refine .skip fun divides => .ite (fun _ => binary div) fun _ => ?_
  refine .step .get fun start isSafe => ?_
  refine .skip fun found => ?_
  split
  · exact ensures_expected _
  refine .step (ensures_binaryOperator _) fun operator holdsOperator => ?_
  split
  next operator => exact ensures_binaryRest holds (holdsOperator operator rfl) _ _
  split
  · exact ensures_isRest holds
  · refine .skip fun zoned => .ite (fun _ => ?_) fun _ => ensures_expectedAt _ _
    refine .step ensures_next fun zone token => ?_
    split
    next isQuoted =>
      exact .pure (closed.expr_atTimeZone holds (closed.text_quoted (token _ isQuoted)))
    next => exact ensures_expectedAt _ _
  · exact .ite (fun _ => .restore isSafe (ensures_comparisonRest holds)) fun _ => .throw _
  · exact .step (ensures_dataType rules.type) fun type holdsType =>
      .pure (closed.expr_cast holds holdsType (by simp))
  · exact .pure (closed.expr_unary holds)
  · exact ensures_bracketRest intervals holds
  · exact .step ensures_literal fun value holdsValue =>
      .pure (closed.expr_binary holds closed.operator_symbol (closed.expr_literal holdsValue))
  · exact .ite (fun _ => binary closed.operator_symbol) fun _ => .throw _
  · exact .throw _

theorem ensures_operatorsUpTo (precedence : Parser Nat) [Reads precedence] (least bound : Nat)
    {operand : Expr} (holds : trait.expr operand) :
    Ensures dialect trait.tokens trait.expr
      (operatorsUpTo grammar interval precedence least bound operand) := by
  induction bound generalizing operand with
  | zero => exact .pure holds
  | succ bound ih =>
      refine .skip fun found => .ite (fun _ => .pure holds) fun _ => ?_
      exact .step (ensures_followingRule intervals holds _) fun extended holdsExtended =>
        ih holdsExtended

end Interval

omit closed rules in
instance : Reads nextPrecedence := by
  refine ⟨fun dialect safe _ => .skip fun found => ?_⟩
  split <;> exact Reads.ensures _ _

omit closed rules in
instance : Reads intervalPrecedence := by
  refine ⟨fun dialect safe _ => .skip fun found => ?_⟩
  split <;> exact Reads.ensures _ _

theorem ensures_intervalUpTo (bound : Nat) :
    Ensures dialect trait.tokens trait.expr (intervalUpTo grammar bound) := by
  induction bound with
  | zero => exact ensures_expected _
  | succ bound ih =>
      refine .step (ensures_leadingWith ih) fun first holds => .skip fun tokens => ?_
      refine .step (ensures_operatorsUpTo ih _ _ _ holds) fun value holdsValue => ?_
      exact ensures_intervalRest holdsValue

theorem ensures_intervalRule :
    Ensures dialect trait.tokens trait.expr (intervalRule grammar) :=
  .skip fun _ => ensures_intervalUpTo _

theorem ensures_operandRule (least : Nat) :
    Ensures dialect trait.tokens trait.expr (operandRule grammar least) := by
  refine .step (ensures_leadingWith ensures_intervalRule) fun first holds => ?_
  exact .skip fun tokens => ensures_operatorsUpTo ensures_intervalRule _ _ _ holds

end Parser

end Querent.Sql

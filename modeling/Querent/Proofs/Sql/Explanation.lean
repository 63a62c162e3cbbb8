import Querent.Proofs.Sql.Grammar.Statement
import Querent.Proofs.Sql.Verdict
import Querent.Sql.Explanation

/-!
# What an explanation says

Every text gets one of three answers: that it cannot be read, that its first statement is no
selection, or a sentence on that statement.  A statement of the kind of selections is a query with a
leftmost selection, so the last answer is never missing.  The sentence is made from that selection and
from the order and the limit of the whole query.  It does not show the tables that are defined
beforehand, the right-hand sides of set operations, nor any later statement.
-/

namespace Querent.Sql

/-! ## Leftmost selections -/

theorem Query.body_kind_of_kind_eq_select {query : Query} (selects : query.kind = .select) :
    query.body.kind = .select := by
  rw [query.kind_eq_kindOfParts, kindOfParts_eq_select_iff] at selects
  rw [query.body.kind_eq_kindOfParts, kindOfParts_eq_select_iff]
  intro part member
  apply selects part
  cases query
  exact List.mem_append_right _ member

/-- A body of the kind of selections has a leftmost selection. -/
theorem Body.exists_leftmost : ∀ body : Body, body.kind = .select →
    ∃ selection, body.leftmost? = some selection
  | .select selection, _ => ⟨selection, rfl⟩
  | .query ⟨_, _, body, _, _, _, _, _, _, _⟩, selects =>
      Body.exists_leftmost body (Query.body_kind_of_kind_eq_select selects)
  | .operation _ _ left _, selects => by
      apply Body.exists_leftmost left
      rw [Body.kind] at selects
      split at selects
      next isSelect => exact isSelect
      next other => exact absurd selects other
  | .values _ _, selects => by cases selects
  | .table _ _, selects => by cases selects
  | .insert _, selects => by cases selects
  | .update _, selects => by cases selects

/-- A statement of the kind of selections is a query with a leftmost selection. -/
theorem Statement.exists_leftmost {statement : Statement} (selects : statement.kind = .select) :
    ∃ query selection, statement = .query query ∧ query.body.leftmost? = some selection := by
  cases statement with
  | query query =>
      rcases query.body.exists_leftmost (Query.body_kind_of_kind_eq_select selects) with
        ⟨selection, leftmost⟩
      exact ⟨query, selection, rfl, leftmost⟩
  | command command text => exact absurd selects command.statementKind_ne_select

/-! ## Sentences -/

theorem exists_describedItems (items : List SelectItem) :
    ∃ columns, describedItems items = "Selecting" ++ columns := by
  unfold describedItems
  split
  · exact ⟨" all columns", rfl⟩
  · exact ⟨": " ++ commaJoined (items.map SelectItem.described), by rw [← String.append_assoc]; rfl⟩

theorem exists_commaJoined_cons (first : String) (rest : List String) :
    ∃ tail, commaJoined (first :: rest) = first ++ tail := by
  cases rest with
  | nil => exact ⟨"", by rw [commaJoined, String.intercalate_singleton, String.append_empty]⟩
  | cons second rest =>
      exact ⟨", " ++ commaJoined (second :: rest), by
        rw [commaJoined, String.intercalate_cons_cons, String.append_assoc, commaJoined]⟩

/-- A sentence starts with the word for selecting and ends with a full stop. -/
theorem Select.exists_sentence (query : Query) (selection : Select) :
    ∃ middle, selection.sentence query = "Selecting" ++ middle ++ "." := by
  rcases exists_describedItems selection.items with ⟨columns, described⟩
  unfold Select.sentence
  simp only
  rw [List.filterMap_cons_some (f := id) rfl]
  rcases exists_commaJoined_cons (describedItems selection.items) _ with ⟨tail, joined⟩
  exact ⟨columns ++ tail, by rw [joined, described]; simp only [String.append_assoc]⟩

theorem Select.sentence_ne (query : Query) (selection : Select) :
    selection.sentence query ≠ unreadableSentence ∧
      selection.sentence query ≠ notSelectSentence := by
  rcases Select.exists_sentence query selection with ⟨middle, shape⟩
  have initial : (selection.sentence query).toList.head? = some 'S' := by
    rw [shape, String.toList_append, String.toList_append]
    rfl
  constructor
  · intro same
    rw [same] at initial
    revert initial
    decide
  · intro same
    rw [same] at initial
    revert initial
    decide

/-- Whether two selections show the same columns and relations and are filtered and grouped alike. -/
structure Select.SeenAlike (selection other : Select) : Prop where
  items : selection.items = other.items
  relations : Source.relations selection.sources = Source.relations other.sources
  filtered : selection.condition.isSome = other.condition.isSome
  grouped : selection.isGrouped = other.isGrouped

/--
Whether the leftmost selections of two queries are seen alike and the queries are both sorted or both
not, and have the same limit.
-/
structure Query.SeenAlike (query other : Query) : Prop where
  leftmost : ∃ selection selection', query.body.leftmost? = some selection ∧
    other.body.leftmost? = some selection' ∧ selection.SeenAlike selection'
  sorted : query.order.isEmpty = other.order.isEmpty
  limit : query.limit = other.limit

/-- A sentence shows nothing but what queries that are seen alike have in common. -/
theorem Select.sentence_congr {query other : Query} {selection selection' : Select}
    (alike : selection.SeenAlike selection') (sorted : query.order.isEmpty = other.order.isEmpty)
    (limit : query.limit = other.limit) : selection.sentence query = selection'.sentence other := by
  unfold Select.sentence
  rw [alike.items, alike.relations, alike.filtered, alike.grouped, sorted, limit]

/-! ## Statements -/

theorem sentenceOf_of_kind_ne_select {statement : Statement} (other : statement.kind ≠ .select)
    (rest : List Statement) : sentenceOf (statement :: rest) = notSelectSentence := by
  have notSelect : ¬ statement.isSelect = true := by simpa [Statement.isSelect] using other
  exact if_neg notSelect

theorem sentenceOf_of_leftmost {query : Query} {selection : Select}
    (selects : (Statement.query query).kind = .select)
    (leftmost : query.body.leftmost? = some selection) (rest : List Statement) :
    sentenceOf (.query query :: rest) = selection.sentence query := by
  have isSelect : (Statement.query query).isSelect = true := by simpa [Statement.isSelect] using selects
  unfold sentenceOf
  simp only [isSelect, if_true, leftmost]

theorem sentenceOf_of_seenAlike {query other : Query}
    (selects : (Statement.query query).kind = .select)
    (selects' : (Statement.query other).kind = .select) (alike : query.SeenAlike other)
    (rest rest' : List Statement) :
    sentenceOf (.query query :: rest) = sentenceOf (.query other :: rest') := by
  rcases alike.leftmost with ⟨selection, selection', leftmost, leftmost', same⟩
  rw [sentenceOf_of_leftmost selects leftmost, sentenceOf_of_leftmost selects' leftmost',
    Select.sentence_congr same alike.sorted alike.limit]

/-! ## Revisions -/

mutual

/--
Whether a query is another with other tables defined beforehand and other right-hand sides of its set
operations, in its own body and in the queries in parentheses that lead to its leftmost selection.
-/
inductive Query.Revises : Query → Query → Prop where
  | mk {query : Query} {body : Body} (recursive : Bool) (definitions : List Definition)
      (revises : Body.Revises body query.body) :
      Query.Revises { query with recursive, definitions, body } query

/-- Whether a body is another with other definitions and other right-hand sides of set operations. -/
inductive Body.Revises : Body → Body → Prop where
  | same (body : Body) : Body.Revises body body
  | query {query other : Query} (revises : Query.Revises query other) :
      Body.Revises (.query query) (.query other)
  | operation {left left' : Body} (operator : SetOperator) (quantifier : SetQuantifier)
      (right right' : Body) (revises : Body.Revises left left') :
      Body.Revises (.operation operator quantifier left right)
        (.operation operator quantifier left' right')

end

@[simp]
theorem Body.leftmost?_query (query : Query) :
    (Body.query query).leftmost? = query.body.leftmost? := by
  cases query
  rfl

mutual

theorem Query.Revises.leftmost?_eq {query other : Query} :
    Query.Revises query other → query.body.leftmost? = other.body.leftmost?
  | .mk _ _ revises => revises.leftmost?_eq

/-- A revision leaves the leftmost selection as it is. -/
theorem Body.Revises.leftmost?_eq {body other : Body} :
    Body.Revises body other → body.leftmost? = other.leftmost?
  | .same _ => rfl
  | .query revises => by
      rw [Body.leftmost?_query, Body.leftmost?_query]
      exact revises.leftmost?_eq
  | .operation _ _ _ _ revises => revises.leftmost?_eq

end

/-- A revision of a query with a leftmost selection is seen as the query is. -/
theorem Query.Revises.seenAlike {query other : Query} (revises : Query.Revises query other)
    {selection : Select} (leftmost : other.body.leftmost? = some selection) :
    query.SeenAlike other where
  leftmost := ⟨selection, selection, by rw [revises.leftmost?_eq, leftmost], leftmost,
    { items := rfl, relations := rfl, filtered := rfl, grouped := rfl }⟩
  sorted := by cases revises; rfl
  limit := by cases revises; rfl

/-! ## Explanations -/

variable {dialect : Dialect} {text : String}

theorem explain_of_ok {statements : List Statement}
    (parsed : parseStatements dialect text = .ok statements) :
    explain dialect text = sentenceOf statements := by
  unfold explain
  rw [parsed]

theorem explain_of_error {error : ParseError} (failed : parseStatements dialect text = .error error) :
    explain dialect text = unreadableSentence := by
  unfold explain
  rw [failed]

/-- What an explanation says about a text: a rule for each of the three answers. -/
inductive Explains (dialect : Dialect) (text : String) : String → Prop where
  | unreadable {error : ParseError} (failed : parseStatements dialect text = .error error) :
      Explains dialect text unreadableSentence
  | notSelect {first : Statement} {rest : List Statement}
      (parsed : parseStatements dialect text = .ok (first :: rest)) (other : first.kind ≠ .select) :
      Explains dialect text notSelectSentence
  | sentence {query : Query} {rest : List Statement} {selection : Select}
      (parsed : parseStatements dialect text = .ok (.query query :: rest))
      (selects : (Statement.query query).kind = .select)
      (leftmost : query.body.leftmost? = some selection) :
      Explains dialect text (selection.sentence query)

theorem explains_explain (dialect : Dialect) (text : String) :
    Explains dialect text (explain dialect text) := by
  cases parsed : parseStatements dialect text with
  | error error =>
      rw [explain_of_error parsed]
      exact .unreadable parsed
  | ok statements =>
      rw [explain_of_ok parsed]
      cases statements with
      | nil =>
          rcases exists_tokens_of_parseStatements parsed with ⟨-, -, -, -, -, -, -, -, nonempty⟩
          exact absurd rfl nonempty
      | cons first rest =>
          by_cases selects : first.kind = .select
          · rcases Statement.exists_leftmost selects with ⟨query, selection, rfl, leftmost⟩
            rw [sentenceOf_of_leftmost selects leftmost]
            exact .sentence parsed selects leftmost
          · rw [sentenceOf_of_kind_ne_select selects]
            exact .notSelect parsed selects

theorem explain_eq_unreadable_iff :
    explain dialect text = unreadableSentence ↔
      ∃ error, parseStatements dialect text = .error error := by
  constructor
  · intro answer
    have explains := explains_explain dialect text
    rw [answer] at explains
    generalize said : unreadableSentence = sentence at explains
    cases explains with
    | unreadable failed => exact ⟨_, failed⟩
    | notSelect => exact absurd said (by decide)
    | @sentence query _ selection => exact absurd said.symm (selection.sentence_ne query).1
  · rintro ⟨error, failed⟩
    exact explain_of_error failed

theorem explain_eq_notSelect_iff :
    explain dialect text = notSelectSentence ↔
      ∃ first rest, parseStatements dialect text = .ok (first :: rest) ∧ first.kind ≠ .select := by
  constructor
  · intro answer
    have explains := explains_explain dialect text
    rw [answer] at explains
    generalize said : notSelectSentence = sentence at explains
    cases explains with
    | unreadable => exact absurd said (by decide)
    | notSelect parsed other => exact ⟨_, _, parsed, other⟩
    | @sentence query _ selection => exact absurd said.symm (selection.sentence_ne query).2
  · rintro ⟨first, rest, parsed, other⟩
    rw [explain_of_ok parsed, sentenceOf_of_kind_ne_select other]

/--
An explanation says that a text cannot be read exactly when it cannot, and that it is no selection
exactly when its first statement is none.  In every other case that statement is a query with a
leftmost selection, and the explanation is the sentence on it, from its first word to its full stop.
Two texts are explained alike where these selections are seen alike and the queries have the same
limit and are sorted or not; so no revision of definitions and right-hand sides and no later statement
is noticed, as long as the first statement remains a selection.
-/
theorem explain_describes_leftmost :
    (∀ dialect text, explain dialect text = unreadableSentence ↔
      ∃ error, parseStatements dialect text = .error error) ∧
    (∀ dialect text, explain dialect text = notSelectSentence ↔
      ∃ first rest, parseStatements dialect text = .ok (first :: rest) ∧ first.kind ≠ .select) ∧
    (∀ dialect text, explain dialect text = unreadableSentence ∨
      explain dialect text = notSelectSentence ∨
      ∃ query rest selection middle, parseStatements dialect text = .ok (.query query :: rest) ∧
        (Statement.query query).kind = .select ∧ query.body.leftmost? = some selection ∧
        explain dialect text = selection.sentence query ∧
        explain dialect text = "Selecting" ++ middle ++ ".") ∧
    (∀ statement : Statement, statement.kind = .select →
      ∃ query selection, statement = .query query ∧ query.body.leftmost? = some selection) ∧
    (∀ dialect dialect' text text' query query' rest rest',
      parseStatements dialect text = .ok (.query query :: rest) →
      parseStatements dialect' text' = .ok (.query query' :: rest') →
      (Statement.query query).kind = .select → (Statement.query query').kind = .select →
      query.SeenAlike query' ∨ query.Revises query' →
        explain dialect text = explain dialect' text') ∧
    (∀ query query' rest rest', (Statement.query query).kind = .select →
      (Statement.query query').kind = .select → query.SeenAlike query' ∨ query.Revises query' →
        sentenceOf (.query query :: rest) = sentenceOf (.query query' :: rest')) := by
  have blind : ∀ query query' rest rest', (Statement.query query).kind = .select →
      (Statement.query query').kind = .select → query.SeenAlike query' ∨ query.Revises query' →
        sentenceOf (.query query :: rest) = sentenceOf (.query query' :: rest') := by
    intro query query' rest rest' selects selects' like
    rcases like with alike | revises
    · exact sentenceOf_of_seenAlike selects selects' alike rest rest'
    · rcases Statement.exists_leftmost selects' with ⟨_, selection, same, leftmost⟩
      cases same
      exact sentenceOf_of_seenAlike selects selects' (revises.seenAlike leftmost) rest rest'
  constructor
  · intro dialect text
    exact explain_eq_unreadable_iff
  constructor
  · intro dialect text
    exact explain_eq_notSelect_iff
  constructor
  · intro dialect text
    have explains := explains_explain dialect text
    generalize explain dialect text = said at explains ⊢
    cases explains with
    | unreadable => exact .inl rfl
    | notSelect => exact .inr (.inl rfl)
    | @sentence query rest selection parsed selects leftmost =>
        rcases selection.exists_sentence query with ⟨middle, shape⟩
        exact .inr (.inr ⟨query, rest, selection, middle, parsed, selects, leftmost, rfl, shape⟩)
  constructor
  · intro statement selects
    exact Statement.exists_leftmost selects
  constructor
  · intro dialect dialect' text text' query query' rest rest' parsed parsed' selects selects' like
    rw [explain_of_ok parsed, explain_of_ok parsed']
    exact blind query query' rest rest' selects selects' like
  · exact blind

/-- The selection of all columns of a table. -/
def allColumns (table : String) : Select where
  distinctness := .all
  distinctOn := []
  top := none
  topPercent := false
  topTies := false
  items := [.wildcard none none [] none []]
  target := none
  sources := [⟨.table [⟨table, none⟩] [] false [] none [], []⟩]
  views := []
  condition := none
  groupAll := false
  groupBy := []
  clusterBy := []
  distributeBy := []
  sortBy := []
  having := none
  windowNames := []
  windows := []
  qualify := none

/-- The union of the rows of two tables. -/
def unionOfTables : Query :=
  .ofBody (.operation .union .all (.select (allColumns "a")) (.select (allColumns "b")))

/-- The same union, with a table defined beforehand and a query in parentheses on its right. -/
def revisedUnion : Query :=
  { unionOfTables with
    recursive := true
    definitions := [⟨⟨⟨"b", none⟩, []⟩, .ofBody (.select (allColumns "c")), none⟩]
    body := .operation .union .all (.select (allColumns "a"))
      (.query (.ofBody (.select (allColumns "d")))) }

theorem explain_describes_leftmost_union :
    (Statement.query revisedUnion).kind = .select ∧ (Statement.query unionOfTables).kind = .select ∧
      revisedUnion.Revises unionOfTables ∧
      sentenceOf [.query revisedUnion, .query revisedUnion] = sentenceOf [.query unionOfTables] := by
  have selects : (Statement.query revisedUnion).kind = .select := rfl
  have selects' : (Statement.query unionOfTables).kind = .select := rfl
  have revises : revisedUnion.Revises unionOfTables :=
    .mk _ _ (.operation _ _ _ _ (.same _))
  rcases explain_describes_leftmost with ⟨-, -, -, -, -, blind⟩
  exact ⟨selects, selects', revises, blind _ _ _ _ selects selects' (.inr revises)⟩

end Querent.Sql

import Querent.Sql.Kind

/-!
# Explanations

A query in one sentence: what it selects, from where, whether its rows are filtered, grouped and
sorted, and how many there may be.  Of a set operation the leftmost selection is described; the
order and the limit are those of the whole query.
-/

namespace Querent.Sql

/-- The sentence on a text that cannot be read. -/
def unreadableSentence : String :=
  "Unable to parse query explanation."

/-- The sentence on a statement that is no selection. -/
def notSelectSentence : String :=
  "This query performs a non-SELECT operation."

mutual

/-- How an expression is named in a sentence. -/
def Expr.described : Expr → String
  | .call name _ _ arguments _ _ _ _ => QualifiedName.sql name ++ "(" ++ firstArgument arguments ++ ")"
  | .name name => name.text
  | .compound parts =>
    match parts.getLast? with
    | some name => name.text
    | none => Expr.sql (.compound parts)
  | e => e.sql

/-- How the first argument of a call is named in a sentence. -/
def firstArgument : List Expr → String
  | [] => "*"
  | .argument _ .wildcard :: _ => "*"
  | .argument _ (.qualifiedWildcard _) :: _ => "*"
  | .argument _ value :: _ => value.described
  | .wildcard :: _ => "*"
  | .qualifiedWildcard _ :: _ => "*"
  | value :: _ => value.described

end

/-- How a selected column is named in a sentence. -/
def SelectItem.described : SelectItem → String
  | .wildcard .. => "all columns"
  | .expression value => value.described
  | .aliased value label =>
    match value with
    | .call .. => value.described ++ " as " ++ label.text
    | _ => label.text

/-- How the selected columns are named in a sentence. -/
def describedItems (items : List SelectItem) : String :=
  match items with
  | [.wildcard none _ _ _ _] => "Selecting all columns"
  | _ => "Selecting: " ++ commaJoined (items.map SelectItem.described)

/-- How something that rows are read from is named in a sentence. -/
def Relation.described : Relation → String
  | .table name _ _ _ _ _ => QualifiedName.sql name
  | .derived lateral query label =>
    match label with
    | some ⟨name, _⟩ => name.text
    | none => Relation.sql (.derived lateral query label)
  | relation => relation.sql

/-- All relations of several sources, from left to right. -/
def Source.relations (sources : List Source) : List Relation :=
  sources.flatMap fun source => source.relation :: source.joins.map Join.relation

/-- The sentence on a query and the selection that stands for it. -/
def Select.sentence (query : Query) (selection : Select) : String :=
  let relations := (Source.relations selection.sources).map Relation.described
  let parts :=
    [some (describedItems selection.items),
      if relations.isEmpty then none else some ("from " ++ commaJoined relations),
      if selection.condition.isSome then some "with filtering conditions" else none,
      if selection.isGrouped then some "grouped by specific columns" else none,
      if query.order.isEmpty then none else some "sorted by specific columns",
      query.limit.map fun limit => "limited to " ++ limit.sql ++ " rows"]
  commaJoined (parts.filterMap id) ++ "."

/-- The sentence on a list of statements, of which only the first is described. -/
def sentenceOf : List Statement → String
  | [] => unreadableSentence
  | statement :: _ =>
    if statement.isSelect then
      match statement with
      | .query query =>
        match query.body.leftmost? with
        | some selection => selection.sentence query
        | none => notSelectSentence
      | .command _ _ => notSelectSentence
    else notSelectSentence

/-- The sentence on a text. -/
def explain (dialect : Dialect) (text : String) : String :=
  match parseStatements dialect text with
  | .error _ => unreadableSentence
  | .ok statements => sentenceOf statements

end Querent.Sql

import Querent.Sql.Grammar.Statement

/-!
# Kinds of statements

A query is a selection only if every body it is built from is a `SELECT` that writes nowhere: its
own body, both sides of a set operation, queries in parentheses and the definitions before it.  The
first body that is none of these decides what the query is instead.
-/

namespace Querent.Sql

mutual

/-- What a query does. -/
def Query.kind : Query → StatementKind
  | ⟨_, definitions, body, _, _, _, _, _, _, _⟩ =>
    match Definition.firstKind definitions with
    | some kind => kind
    | none => body.kind

/-- What the first of several definitions that is no selection does, if there is one. -/
def Definition.firstKind : List Definition → Option StatementKind
  | [] => none
  | ⟨_, query, _⟩ :: rest =>
    match query.kind with
    | .select => Definition.firstKind rest
    | kind => some kind

/-- What a body does. -/
def Body.kind : Body → StatementKind
  | .select ⟨_, _, _, _, _, _, target, _, _, _, _, _, _, _, _, _, _, _, _⟩ =>
    if target.isSome then .ddl else .select
  | .query query => query.kind
  | .operation _ _ left right =>
    match left.kind with
    | .select => right.kind
    | kind => kind
  | .insert _ => .insert
  | .values _ _ => .other
  | .table _ _ => .other
  | .update _ => .other

end

/-- What a statement does. -/
def Statement.kind : Statement → StatementKind
  | query q => q.kind
  | command kind _ => kind.statementKind

/-- Whether a statement does nothing but select rows. -/
def Statement.isSelect (statement : Statement) : Bool :=
  statement.kind == .select

/-- The canonical text of several statements. -/
def statementsSql (statements : List Statement) : String :=
  "; ".intercalate (statements.map Statement.sql)

end Querent.Sql

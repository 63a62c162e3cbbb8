import Querent.Sql.Kind
import Querent.Sql.Faithful
import Querent.Text.Blank
import Querent.Text.Search

/-!
# The gateway

Every query passes the gateway before it reaches a database.  The gateway lets selections through,
in their canonical text, and rejects everything else.  It goes through fixed stages, and the first
stage that objects decides: the text must not be empty, must not mention a forbidden word, must be a
list of statements, must select only, and must survive being printed.
-/

namespace Querent.Sql

/-- The words that no query may mention, in the order in which they are looked for. -/
def forbiddenWords : List String :=
  ["DROP", "DELETE", "TRUNCATE", "INSERT", "UPDATE", "ALTER", "CREATE", "REPLACE", "GRANT",
    "REVOKE", "EXEC", "EXECUTE"]

/-- The first forbidden word that occurs in the upper-case form of a text. -/
def forbiddenWord? (text : String) : Option String :=
  let upper := Text.upper text.toList
  forbiddenWords.find? fun word => Text.occursIn word.toList upper

/-- Why the gateway rejects a query. -/
inductive Rejection where
  | emptyQuery
  | forbidden (word : String)
  | syntactic (error : ParseError)
  | notSelect (kind : StatementKind)
  /-- The canonical text has lost a part of the query. -/
  | unfaithful
  deriving DecidableEq, Repr

/-- The wording of a rejection. -/
def Rejection.message : Rejection → String
  | emptyQuery => "Query cannot be empty"
  | forbidden word =>
    "Forbidden operation detected: " ++ word ++ ". Only SELECT queries are allowed."
  | syntactic error => "SQL parsing error: " ++ error.message
  | notSelect kind => "Only SELECT queries are allowed (found " ++ kind.name ++ " statement)"
  | unfaithful => "Query uses syntax that cannot be reproduced safely. " ++
      "Avoid subscripts on function calls or literals."

/-- The canonical text of a query that is let through, or why it is rejected. -/
abbrev Verdict := Except Rejection String

/-- The verdict on a list of statements that were read from a text. -/
def judge (dialect : Dialect) (source : String) (statements : List Statement) : Verdict :=
  match statements.find? fun statement => !statement.isSelect with
  | some statement => .error (.notSelect statement.kind)
  | none =>
    let canonical := statementsSql statements
    if isFaithful dialect source canonical then .ok canonical else .error .unfaithful

/-- The verdict on a query. -/
def validate (dialect : Dialect) (text : String) : Verdict :=
  let source := trimmed text
  if source.isEmpty then .error .emptyQuery
  else
    match forbiddenWord? source with
    | some word => .error (.forbidden word)
    | none =>
      match parseStatements dialect source with
      | .error error => .error (.syntactic error)
      | .ok statements => judge dialect source statements

end Querent.Sql

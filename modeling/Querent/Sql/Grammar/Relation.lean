import Querent.Sql.Grammar.Expression

/-!
# Relations

The rules for what rows are read from: tables, queries and functions, the tables made from them by
turning rows into columns, and joins.  A relation in parentheses may be a query or a join; the query
is tried first.
-/

namespace Querent.Sql.Parser

/-- The constraint of a join that pairs no columns by their names alone. -/
structure Constraint where
  condition : Option Expr
  columns : List Ident

/-- The second name of a relation, if it has one. -/
def Relation.label? : Relation → Option TableAlias
  | .table _ _ _ _ label _ => label
  | .derived _ _ label => label
  | .function _ _ label => label
  | .expression _ label => label
  | .unnest _ label _ _ => label
  | .nested _ label => label
  | .pivot _ _ _ _ label => label
  | .unpivot _ _ _ _ label => label
  | .view _ _ _ _ => none

/-- A relation under a second name. -/
def Relation.withAlias (relation : Relation) (label : TableAlias) : Relation :=
  match relation with
  | .table name partitions called arguments _ hints =>
    .table name partitions called arguments (some label) hints
  | .derived lateral query _ => .derived lateral query (some label)
  | .function name arguments _ => .function name arguments (some label)
  | .expression value _ => .expression value (some label)
  | .unnest arrays _ withOffset offsetAlias => .unnest arrays (some label) withOffset offsetAlias
  | .nested source _ => .nested source (some label)
  | .pivot inner aggregate column values _ => .pivot inner aggregate column values (some label)
  | .unpivot inner value name columns _ => .unpivot inner value name columns (some label)
  | .view outer value name columns => .view outer value name columns

section Rules

variable (grammar : Grammar)

/-- A query as a relation after its opening parenthesis. -/
def derivedRest (lateral : Bool) : Parser Relation := do
  let query ← grammar.query
  expectSymbol .closeParen
  return .derived lateral query (← optionalTableAlias)

/-- A query or a function that sees the relations before it, after `LATERAL`. -/
def lateralRest : Parser Relation := do
  if ← symbol .openParen then derivedRest grammar true
  else
    let name ← qualifiedName
    expectSymbol .openParen
    let items ← arguments grammar
    return .function name items (← optionalTableAlias)

/-- Columns made from the values of a column, after `PIVOT`. -/
def pivotRest (relation : Relation) : Parser Relation := do
  expectSymbol .openParen
  let found ← next
  let name ← match tokenOf found with
    | some (.word w) => pure w.text
    | _ => expected "an aggregate function name"
  let aggregate ← call grammar (intervalRule grammar) [⟨name, none⟩]
  expectKeyword "FOR"
  let column ← qualifiedName
  expectKeyword "IN"
  expectSymbol .openParen
  let values ← commaSeparated literal
  expectSymbol .closeParen
  expectSymbol .closeParen
  return .pivot relation aggregate column values (← optionalTableAlias)

/-- Rows made from several columns, after `UNPIVOT`. -/
def unpivotRest (relation : Relation) : Parser Relation := do
  expectSymbol .openParen
  let value ← ident
  expectKeyword "FOR"
  let name ← ident
  expectKeyword "IN"
  let names ← columns
  expectSymbol .closeParen
  return .unpivot relation value name names (← optionalTableAlias)

/-- At most so many turns of columns into rows or back, one after another. -/
def turnsUpTo : Nat → Relation → Parser Relation
  | 0, relation => return relation
  | n + 1, relation => do
    if ← keyword "PIVOT" then turnsUpTo n (← pivotRest grammar relation)
    else if ← keyword "UNPIVOT" then turnsUpTo n (← unpivotRest relation)
    else return relation

/-- A relation, with its columns turned into rows or back. -/
def turns (relation : Relation) : Parser Relation := do
  turnsUpTo grammar ((← get).length + 1) relation

/-- A list of names in parentheses, which must be there. -/
def identsInParens : Parser (List Ident) :=
  parenthesized (commaSeparated ident)

/-- Hints to a table; `WITH` may also start something else and is then not read. -/
def tableHints : Parser (List Expr) := do
  let start ← get
  if ← keyword "WITH" then
    if ← symbol .openParen then
      let hints ← commaSeparated grammar.expr
      expectSymbol .closeParen
      return hints
    else
      set start
      return []
  else return []

/-- A table, or a function that yields one. -/
def tableRest : Parser Relation := do
  let name ← qualifiedName
  let partitions ← do
    if ← dialectIn [.mySql, .generic] <&&> keyword "PARTITION" then identsInParens
    else pure []
  let called ← symbol .openParen
  let items ← if called then arguments grammar else pure []
  let label ← optionalTableAlias
  let hints ← tableHints grammar
  turns grammar (.table name partitions called items label hints)

/-- The elements of arrays as rows, after `UNNEST`. -/
def unnestRest : Parser Relation := do
  let arrays ← parenthesized (commaSeparated grammar.expr)
  let label ← optionalTableAlias
  if ← keyword "WITH" <&&> keyword "OFFSET" then
    return .unnest arrays label true (← optionalAlias Keyword.endingColumn)
  else return .unnest arrays label false none

/-- A relation in parentheses that is no query. -/
def nestedRest : Parser Relation := do
  let source ← grammar.source
  let whole : Bool := match source with
    | ⟨.nested _ _, []⟩ => true
    | ⟨_, []⟩ => false
    | _ => true
  if whole then
    expectSymbol .closeParen
    return .nested source (← optionalTableAlias)
  else if (← dialect) = .generic then
    expectSymbol .closeParen
    match ← optionalTableAlias, Relation.label? source.relation with
    | some _, some inner => throw (.refused ("duplicate alias " ++ inner.sql) none)
    | some outer, none => return Relation.withAlias source.relation outer
    | none, _ => return source.relation
  else expected "joined table"

/-- Something that rows are read from. -/
def relationRule : Parser Relation := do
  if ← keyword "LATERAL" then lateralRest grammar
  else if ← keyword "TABLE" then
    let value ← parenthesized grammar.expr
    return .expression value (← optionalTableAlias)
  else if ← symbol .openParen then
    match ← attempt (derivedRest grammar false) with
    | some derived => turns grammar derived
    | none => nestedRest grammar
  else if ← dialectIn [.postgres, .generic] <&&> keyword "UNNEST" then unnestRest grammar
  else tableRest grammar

/-- What a join pairs rows by. -/
def constraint (natural : Bool) : Parser Constraint := do
  if natural then return ⟨none, []⟩
  else if ← keyword "ON" then return ⟨some (← grammar.expr), []⟩
  else if ← keyword "USING" then return ⟨none, ← columns⟩
  else return ⟨none, []⟩

/-- The kind of a join after `LEFT` or `RIGHT`. -/
def sidedJoin (side : Keyword) (plain semi anti : JoinKind) : Parser JoinKind := do
  discard next
  match ← oneOf ["OUTER", "SEMI", "ANTI", "JOIN"] with
  | some "OUTER" =>
    expectKeyword "JOIN"
    return plain
  | some "SEMI" =>
    expectKeyword "JOIN"
    return semi
  | some "ANTI" =>
    expectKeyword "JOIN"
    return anti
  | some _ => return plain
  | none => throw (.joinExpected side)

/-- The kind of a join that may have a constraint. -/
def constrainedJoin (natural : Bool) : Parser (Option JoinKind) := do
  match (← peek).bind (·.token.keyword?) with
  | some "INNER" | some "JOIN" =>
    discard (keyword "INNER")
    expectKeyword "JOIN"
    return some .inner
  | some "LEFT" => some <$> sidedJoin "LEFT" .left .leftSemi .leftAnti
  | some "RIGHT" => some <$> sidedJoin "RIGHT" .right .rightSemi .rightAnti
  | some "FULL" =>
    discard next
    discard (keyword "OUTER")
    expectKeyword "JOIN"
    return some .full
  | some "OUTER" => expected "LEFT, RIGHT, or FULL"
  | _ => if natural then expected "a join type after NATURAL" else return none

/-- A join to the relations before it, if one follows. -/
def join : Parser (Option Join) := do
  let unconstrained (kind : JoinKind) : Parser (Option Join) := do
    return some ⟨kind, ← grammar.relation, false, none, []⟩
  if ← keyword "CROSS" then
    if ← keyword "JOIN" then unconstrained .cross
    else if ← keyword "APPLY" then unconstrained .crossApply
    else expected "JOIN or APPLY after CROSS"
  else if ← keyword "OUTER" then
    expectKeyword "APPLY"
    unconstrained .outerApply
  else
    let natural ← keyword "NATURAL"
    match ← constrainedJoin natural with
    | some kind =>
      let relation ← grammar.relation
      let ⟨condition, columns⟩ ← constraint grammar natural
      return some ⟨kind, relation, natural, condition, columns⟩
    | none => return none

/-- A relation and the relations joined to it. -/
def sourceRule : Parser Source := do
  let relation ← grammar.relation
  return ⟨relation, ← many (join grammar)⟩

/-- The values that a function yields for each row, after `LATERAL VIEW`. -/
def lateralView : Parser (Option Source) := do
  if ← keywords ["LATERAL", "VIEW"] then
    let outer ← keyword "OUTER"
    let value ← grammar.expr
    let name ← qualifiedName
    let names ← commaSeparated (optionalAlias ["WHERE", "GROUP", "CLUSTER", "HAVING", "LATERAL"])
    return some ⟨.view outer value name (names.filterMap id), []⟩
  else return none

end Rules

end Querent.Sql.Parser

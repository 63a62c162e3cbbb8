import Querent.Sql.Grammar.Relation

/-!
# Selections and queries

The rules for selected columns, for the clauses of a selection, for the operators between queries
and for whole queries.  The rule for statements that change data is passed in, since a query may
hold one.
-/

namespace Querent.Sql.Parser

section Rules

variable (grammar : Grammar)

/-- A name and the name that replaces it. -/
def renamedColumn : Parser (Ident × Ident) := do
  let column ← ident
  expectKeyword "AS"
  return (column, ← ident)

/-- The columns that a wildcard leaves out. -/
def exclusion : Parser (Option Exclusion) := do
  if ← keyword "EXCLUDE" then
    if (← peekAt 0) == some (.symbol .openParen) then
      return some (.many (← parenthesized (commaSeparated ident)))
    else return some (.one (← ident))
  else return none

/-- The columns that a wildcard renames. -/
def renamings : Parser (Option Renaming) := do
  if ← keyword "RENAME" then
    if (← peekAt 0) == some (.symbol .openParen) then
      return some (.many (← parenthesized (commaSeparated renamedColumn)))
    else
      let (column, label) ← renamedColumn
      return some (.one column label)
  else return none

/-- A value that replaces a column of a wildcard. -/
def replacement : Parser Expr := do
  let value ← grammar.expr
  let afterAs ← keyword "AS"
  return .labelled value afterAs (← ident)

/-- The values that replace columns of a wildcard. -/
def replacements : Parser (List Expr) := do
  if ← keyword "REPLACE" then
    if ← symbol .openParen then
      let items ← commaSeparated (replacement grammar)
      expectSymbol .closeParen
      return items
    else expectedAt "( after REPLACE but" (← peek)
  else return []

/-- The columns after `EXCEPT`, of which a single one needs no parentheses. -/
def exceptions : Parser (List Ident) := do
  if (← peekAt 0) == some (.symbol .openParen) then columns else return [← ident]

/-- A wildcard and what changes its columns, as far as the dialect knows it. -/
def wildcardRest (table : Option QualifiedName) : Parser SelectItem := do
  let generic := dialectIn [.generic]
  let exclude ← if ← dialectIn [.generic, .duckDb] then exclusion else pure none
  let except ← if ← generic <&&> keyword "EXCEPT" then exceptions else pure []
  let rename ← if ← generic then renamings else pure none
  let replace ← if ← generic then replacements grammar else pure []
  return .wildcard table exclude except rename replace

/--
A condition on the rows that the expression before it aggregates.  Where no condition follows,
`FILTER` is left for the name of the column.
-/
def columnFilter (value : Expr) : Parser Expr := do
  let start ← get
  if ← (Dialect.filtersAggregates <$> dialect) <&&> keyword "FILTER" then
    if ← symbol .openParen <&&> keyword "WHERE" then
      let condition ← grammar.expr
      expectSymbol .closeParen
      return .filtered value condition
    else
      set start
      return value
  else return value

/-- A selected column, or several of them. -/
def selectItem : Parser SelectItem := do
  match ← exprOrWildcard grammar with
  | .wildcard => wildcardRest grammar none
  | .qualifiedWildcard table => wildcardRest grammar (some table)
  | value =>
    let filtered ← columnFilter grammar value
    match ← optionalAlias Keyword.endingColumn with
    | some name => return .aliased filtered name
    | none => return .expression filtered

/-- The number of rows that a selection is cut off at, after `TOP`. -/
def topRest : Parser (Expr × Bool × Bool) := do
  let quantity ← do
    if ← symbol .openParen then
      let quantity ← grammar.expr
      expectSymbol .closeParen
      pure quantity
    else Expr.literal <$> numberValue
  let percent ← keyword "PERCENT"
  return (quantity, percent, ← keywords ["WITH", "TIES"])

/-- A table that takes the selected rows, after `INTO`. -/
def targetRest : Parser Target := do
  let temporary := (← oneOf ["TEMP", "TEMPORARY"]).isSome
  let unlogged ← keyword "UNLOGGED"
  let tableKeyword ← keyword "TABLE"
  return ⟨temporary, unlogged, tableKeyword, ← qualifiedName⟩

/-- Expressions in parentheses, which may be none. -/
def exprsInParens : Parser (List Expr) := do
  expectSymbol .openParen
  if ← symbol .closeParen then return []
  else
    let items ← commaSeparated grammar.expr
    expectSymbol .closeParen
    return items

/-- A set of expressions to group by; one expression needs no parentheses. -/
def groupingSet : Parser Expr := do
  if (← peekAt 0) == some (.symbol .openParen) then return .tuple (← exprsInParens grammar)
  else return .tuple [← grammar.expr]

/-- An expression to group by, or several sets of them. -/
def groupItem : Parser Expr := do
  if (← dialect).groupsBySets then
    if ← keywords ["GROUPING", "SETS"] then
      return .grouping .sets
        (← parenthesized (commaSeparated (Expr.tuple <$> exprsInParens grammar)))
    else if ← keyword "CUBE" then
      return .grouping .cube (← parenthesized (commaSeparated (groupingSet grammar)))
    else if ← keyword "ROLLUP" then
      return .grouping .rollup (← parenthesized (commaSeparated (groupingSet grammar)))
    else grammar.expr
  else grammar.expr

/-- A window with a name. -/
def namedWindow : Parser (Ident × Window) := do
  let name ← ident
  expectKeyword "AS"
  expectSymbol .openParen
  return (name, ← windowSpec grammar (intervalRule grammar))

/-- A selection after `SELECT`. -/
def selectRest : Parser Select := do
  let (distinctness, distinctOn) ← allOrDistinct grammar
  let top ← after "TOP" (topRest grammar)
  let items ← commaSeparated (selectItem grammar)
  let target ← after "INTO" targetRest
  let sources ← listAfter ["FROM"] (commaSeparated grammar.source)
  let views ← many (lateralView grammar)
  let condition ← after "WHERE" grammar.expr
  let grouped ← keywords ["GROUP", "BY"]
  let groupAll ← if grouped then keyword "ALL" else pure false
  let groupBy ← if grouped && !groupAll then commaSeparated (groupItem grammar) else pure []
  let clusterBy ← listAfter ["CLUSTER", "BY"] (commaSeparated grammar.expr)
  let distributeBy ← listAfter ["DISTRIBUTE", "BY"] (commaSeparated grammar.expr)
  let sortBy ← listAfter ["SORT", "BY"] (commaSeparated grammar.expr)
  let having ← after "HAVING" grammar.expr
  let windows ← listAfter ["WINDOW"] (commaSeparated (namedWindow grammar))
  let qualify ← after "QUALIFY" grammar.expr
  return {
    distinctness := distinctness
    distinctOn := distinctOn
    top := top.map (·.1)
    topPercent := (top.map (·.2.1)).getD false
    topTies := (top.map (·.2.2)).getD false
    items := items
    target := target
    sources := sources
    views := views
    condition := condition
    groupAll := groupAll
    groupBy := groupBy
    clusterBy := clusterBy
    distributeBy := distributeBy
    sortBy := sortBy
    having := having
    windowNames := windows.map (·.1)
    windows := windows.map (·.2)
    qualify := qualify }

/-- A row that is written out. -/
def writtenRow : Parser (Bool × Expr) := do
  let rowKeyword ← keyword "ROW"
  let items ← do
    if (← dialect) = .mySql then exprsInParens grammar
    else parenthesized (commaSeparated grammar.expr)
  return (rowKeyword, .tuple items)

/-- Rows that are written out, after `VALUES`. -/
def valuesRest : Parser Body := do
  let rows ← commaSeparated (writtenRow grammar)
  return .values (rows.any (·.1)) (rows.map (·.2))

/-- A whole table after `TABLE`; three tokens are read, whatever they are. -/
def tableBody : Parser Body := do
  let first ← next
  let second ← next
  let third ← next
  match tokenOf first, tokenOf second, tokenOf third with
  | some (.word schema), some (.symbol .period), some (.word name) =>
    return .table (some schema.text) name.text
  | some (.word _), some (.symbol .period), _ => expectedAt "Table name" third
  | _, some (.symbol .period), _ => expectedAt "Schema name" first
  | some (.word name), _, _ => return .table none name.text
  | _, _, _ => expectedAt "Table name" first

/-- The operator between two queries that the next token spells. -/
def setOperator : Parser (Option SetOperator) := do
  match (← peek).bind (·.token.keyword?) with
  | some "UNION" => return some .union
  | some "EXCEPT" => return some .except
  | some "INTERSECT" => return some .intersect
  | _ => return none

/-- How tightly an operator between queries binds. -/
def setPrecedence : SetOperator → Nat
  | .union | .except => 10
  | .intersect => 20

/-- What an operator between queries does with equal rows. -/
def setQuantifier (operator : SetOperator) : Parser SetQuantifier := do
  let union : Parser Bool := pure (operator == .union)
  if ← union <&&> keywords ["DISTINCT", "BY", "NAME"] then return .distinctByName
  else if ← union <&&> keywords ["BY", "NAME"] then return .byName
  else if ← keyword "ALL" then
    if ← union <&&> keywords ["BY", "NAME"] then return .allByName else return .all
  else if ← keyword "DISTINCT" then return .distinct
  else return .unstated

/-- At most so many operators that bind more tightly than a precedence, and what follows them. -/
def setOperationsUpTo (least : Nat) : Nat → Body → Parser Body
  | 0, body => return body
  | n + 1, body => do
    match ← setOperator with
    | none => return body
    | some operator =>
      if least ≥ setPrecedence operator then return body
      else
        discard next
        let quantifier ← setQuantifier operator
        let right ← grammar.body (setPrecedence operator)
        setOperationsUpTo least n (.operation operator quantifier body right)

/-- A body whose operators bind more tightly than a precedence. -/
def bodyRule (least : Nat) : Parser Body := do
  let first ← do
    if ← keyword "SELECT" then Body.select <$> selectRest grammar
    else if ← symbol .openParen then
      let query ← grammar.query
      expectSymbol .closeParen
      pure (.query query)
    else if ← keyword "VALUES" then valuesRest grammar
    else if ← keyword "TABLE" then tableBody
    else expected "SELECT, VALUES, or a subquery in the query body"
  setOperationsUpTo grammar least ((← get).length + 1) first

/-- A table that is defined by a query. -/
def definition : Parser Definition := do
  let name ← ident
  let columns ← do
    if ← atKeyword "AS" then pure [] else optionalColumns
  expectKeyword "AS"
  let query ← parenthesized grammar.query
  let origin ← after "FROM" ident
  return ⟨⟨name, columns⟩, query, origin⟩

/-- The number of skipped rows after `OFFSET`. -/
def offsetRest : Parser (Expr × OffsetUnit) := do
  let value ← grammar.expr
  if ← keyword "ROW" then return (value, .row)
  else if ← keyword "ROWS" then return (value, .rows)
  else return (value, .unstated)

/-- The limit and the offset of a query, as far as they are known. -/
structure Range where
  limit : Option Expr
  offset : Option (Expr × OffsetUnit)

/-- One round of reading a limit and an offset, of which each may come first. -/
def rangeRound (range : Range) : Parser Range := do
  let limit ← do
    if ← pure range.limit.isNone <&&> keyword "LIMIT" then limitValue grammar else pure range.limit
  let offset ← do
    if ← pure range.offset.isNone <&&> keyword "OFFSET" then some <$> offsetRest grammar
    else pure range.offset
  match limit, offset with
  | some first, none =>
    if ← dialectIn [.generic, .mySql] <&&> symbol .comma then
      return ⟨some (← grammar.expr), some (first, .unstated)⟩
    else return ⟨limit, offset⟩
  | _, _ => return ⟨limit, offset⟩

/-- A limit in the wording of the standard after `FETCH`. -/
def fetchRest : Parser Fetch := do
  discard (expectOneOf ["FIRST", "NEXT"])
  let (quantity, percent) ← do
    if (← oneOf ["ROW", "ROWS"]).isSome then pure (none, false)
    else
      let quantity ← literal
      let percent ← keyword "PERCENT"
      discard (expectOneOf ["ROW", "ROWS"])
      pure (some quantity, percent)
  if ← keyword "ONLY" then return ⟨quantity, percent, false⟩
  else if ← keywords ["WITH", "TIES"] then return ⟨quantity, percent, true⟩
  else expected "one of ONLY or WITH TIES"

/-- A lock on the rows that a query reads. -/
def lock : Parser (Option Lock) := do
  if ← keyword "FOR" then
    let kind ← expectOneOf ["UPDATE", "SHARE"]
    let table ← after "OF" qualifiedName
    let waiting ← do
      if ← keyword "NOWAIT" then pure (some "NOWAIT")
      else if ← keywords ["SKIP", "LOCKED"] then pure (some "SKIP LOCKED")
      else pure none
    return some ⟨kind == "UPDATE", table, waiting⟩
  else return none

/-- The order, the limits and the locks of a query after its body. -/
def queryTail (recursive : Bool) (definitions : List Definition) (body : Body) :
    Parser Query := do
  let order ← optionalOrder grammar
  let range ← rangeRound grammar ⟨none, none⟩
  let range ← rangeRound grammar range
  let limitBy ← do
    if (← dialect) = .generic then listAfter ["BY"] (commaSeparated grammar.expr) else pure []
  let fetch ← after "FETCH" fetchRest
  let locks ← many lock
  return {
    recursive := recursive
    definitions := definitions
    body := body
    order := order
    limit := range.limit
    limitBy := limitBy
    offset := range.offset.map (·.1)
    offsetUnit := (range.offset.map (·.2)).getD .unstated
    fetch := fetch
    locks := locks }

/-- A query, given the rules for statements that insert and change rows. -/
def queryRule (insert update : Parser String) : Parser Query :=
  nested do
    let defines ← keyword "WITH"
    let recursive ← if defines then keyword "RECURSIVE" else pure false
    let definitions ← if defines then commaSeparated (definition grammar) else pure []
    let change (body : Body) : Query :=
      { Query.ofBody body with recursive := recursive, definitions := definitions }
    if ← keyword "INSERT" then return change (.insert (← insert))
    else if ← keyword "UPDATE" then return change (.update (← update))
    else queryTail grammar recursive definitions (← grammar.body 0)

end Rules

end Querent.Sql.Parser

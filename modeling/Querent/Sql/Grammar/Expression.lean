import Querent.Sql.Grammar.Name

/-!
# Expressions

The rules for expressions.  An expression is an operand followed by operators, each with its own
precedence: `operandRule` reads operators as long as they bind more tightly than the operator before
the operand.  The leading part of an operand is read by `leadingRule`, one operator and what follows
it by `followingRule`.
-/

namespace Querent.Sql.Parser

/-- How tightly the operators bind. -/
def precedenceOfSymbol : Symbol → Nat
  | .equal | .less | .lessEqual | .notEqual | .greater | .greaterEqual | .doubleEqual | .tilde
  | .tildeStar | .notTilde | .notTildeStar | .spaceship => 20
  | .pipe => 21
  | .caret | .sharp | .shiftLeft | .shiftRight => 22
  | .ampersand => 23
  | .plus | .minus => 30
  | .times | .divide | .integerDivide | .modulo | .concat => 40
  | .doubleColon | .colon | .exclamation | .openBracket | .doubleAmpersand | .arrow | .longArrow
  | .hashArrow | .hashLongArrow | .atArrow | .arrowAt | .hashMinus | .atQuestion | .doubleAt => 50
  | _ => 0

/-- The precedence of comparisons of ranges and lists. -/
def rangePrecedence : Nat := 20

/-- The precedence of comparisons with patterns. -/
def patternPrecedence : Nat := 19

/-- The precedence of a negation. -/
def negationPrecedence : Nat := 15

/-- The precedence of sums. -/
def sumPrecedence : Nat := 30

/-- The precedence of products. -/
def productPrecedence : Nat := 40

/-- How tightly the operator that a keyword spells binds, given the keywords after it. -/
def precedenceOfKeyword (word : Keyword) (second third : Option Keyword) : Nat :=
  match word with
  | "OR" => 5
  | "AND" => 10
  | "XOR" => 24
  | "AT" => if second == some "TIME" && third == some "ZONE" then 20 else 0
  | "NOT" =>
    match second with
    | some "IN" | some "BETWEEN" => rangePrecedence
    | some "LIKE" | some "ILIKE" | some "RLIKE" | some "REGEXP" | some "SIMILAR" =>
      patternPrecedence
    | _ => 0
  | "IS" => 17
  | "IN" | "BETWEEN" | "OPERATOR" => rangePrecedence
  | "LIKE" | "ILIKE" | "RLIKE" | "REGEXP" | "SIMILAR" => patternPrecedence
  | "DIV" => productPrecedence
  | _ => 0

/-- How tightly the next token binds as an operator; no operator does not bind at all. -/
def nextPrecedence : Parser Nat := do
  let keywordAt (n : Nat) : Parser (Option Keyword) := do
    return (← peekAt n).bind Token.keyword?
  match tokenOf (← peek) with
  | some (.symbol mark) => return precedenceOfSymbol mark
  | some (.word ⟨_, _, some word⟩) =>
    return precedenceOfKeyword word (← keywordAt 1) (← keywordAt 2)
  | _ => return 0

section Rules

variable (grammar : Grammar)

/-- An expression with an order, used wherever rows are sorted. -/
def orderItem : Parser OrderItem := do
  let key ← grammar.expr
  let ascending ← do
    if ← keyword "ASC" then pure (some true)
    else if ← keyword "DESC" then pure (some false)
    else pure none
  let nullsFirst ← do
    if ← keywords ["NULLS", "FIRST"] then pure (some true)
    else if ← keywords ["NULLS", "LAST"] then pure (some false)
    else pure none
  return ⟨key, ascending, nullsFirst⟩

/-- The order of rows, which may be left out. -/
def optionalOrder : Parser (List OrderItem) :=
  listAfter ["ORDER", "BY"] (commaSeparated (orderItem grammar))

/-- A limit on the number of rows; all rows are no limit. -/
def limitValue : Parser (Option Expr) := do
  if ← keyword "ALL" then return none else return some (← grammar.expr)

/-- At most so many names after periods, up to a wildcard; `none` when no wildcard ends them. -/
def wildcardPathUpTo : Nat → List Ident → Parser (Option QualifiedName)
  | 0, _ => return none
  | n + 1, path => do
    if ← symbol .period then
      let found ← next
      match tokenOf found with
      | some (.word w) => wildcardPathUpTo n (path ++ [w.ident])
      | some (.quoted .single value) => wildcardPathUpTo n (path ++ [⟨value, some '\''⟩])
      | some (.symbol .times) => return some path
      | _ => expectedAt "an identifier or a '*' after '.'" found
    else return none

/-- An expression, or a wildcard for all columns or all columns of a table. -/
def exprOrWildcard : Parser Expr := do
  let start ← get
  let found ← next
  let first : Option Ident := match tokenOf found with
    | some (.word w) => some w.ident
    | some (.quoted .single value) => some ⟨value, some '\''⟩
    | _ => none
  match first, tokenOf found with
  | some name, _ =>
    match ← wildcardPathUpTo start.length [name] with
    | some path => return .qualifiedWildcard path
    | none =>
      set start
      grammar.expr
  | none, some (.symbol .times) => return .wildcard
  | none, _ =>
    set start
    grammar.expr

/-- An argument of a function, which may be given by name. -/
def argument : Parser Expr := do
  if (← peekAt 1) == some (.symbol .fatArrow) then
    let name ← ident
    expectSymbol .fatArrow
    return .argument name (← exprOrWildcard grammar)
  else exprOrWildcard grammar

/-- The arguments of a function after the opening parenthesis. -/
def arguments : Parser (List Expr) := do
  if ← symbol .closeParen then return []
  else
    let items ← commaSeparated (argument grammar)
    expectSymbol .closeParen
    return items

/-- The arguments of a function and their order after the opening parenthesis. -/
def orderedArguments : Parser (List Expr × List OrderItem) := do
  if ← symbol .closeParen then return ([], [])
  else
    let items ← commaSeparated (argument grammar)
    let order ← optionalOrder grammar
    expectSymbol .closeParen
    return (items, order)

/-- Whether equal values are left out, and the expressions they are compared by. -/
def allOrDistinct : Parser (Distinctness × List Expr) := do
  let start ← peek
  let all ← keyword "ALL"
  if ← keyword "DISTINCT" then
    if all then throw (.allAndDistinct start)
    else if ← keyword "ON" then
      expectSymbol .openParen
      if ← symbol .closeParen then return (.on, [])
      else
        let items ← commaSeparated grammar.expr
        expectSymbol .closeParen
        return (.on, items)
    else return (.distinct, [])
  else return (.all, [])

/-- A unit of time that the next token spells. -/
def unit : Parser (Option Keyword) := do
  match (← peek).bind (·.token.keyword?) with
  | some word => if intervalFields.contains word then some <$> timeField else return none
  | none => return none

/-- The units and precisions of an interval after its value. -/
def intervalRest (value : Expr) : Parser Expr := do
  let leading ← unit
  if leading == some "SECOND" then
    let (whole, fraction) ← optionalPrecisionScale
    return .interval value leading whole none fraction
  else
    let whole ← optionalSize
    if ← keyword "TO" then
      let last ← timeField
      let fraction ← if last == "SECOND" then optionalSize else pure none
      return .interval value leading whole (some last) fraction
    else return .interval value leading whole none none

/-- An end of a window frame, given the rule for intervals. -/
def bound (interval : Parser Expr) : Parser Bound := do
  if ← keywords ["CURRENT", "ROW"] then return .currentRow
  else
    let distance ← do
      if ← keyword "UNBOUNDED" then pure none
      else
        match tokenOf (← peek) with
        | some (.quoted .single _) => some <$> interval
        | _ => some <$> grammar.expr
    if ← keyword "PRECEDING" then return .preceding distance
    else if ← keyword "FOLLOWING" then return .following distance
    else expected "PRECEDING or FOLLOWING"

/-- The units of a window frame. -/
def frameUnits : Parser FrameUnits := do
  let found ← next
  match found.bind (·.token.keyword?) with
  | some "ROWS" => return .rows
  | some "RANGE" => return .range
  | some "GROUPS" => return .groups
  | _ => expectedAt "ROWS, RANGE, GROUPS" found

/-- The description of a window after the opening parenthesis. -/
def windowSpec (interval : Parser Expr) : Parser Window := do
  let partition ← listAfter ["PARTITION", "BY"] (commaSeparated grammar.expr)
  let order ← optionalOrder grammar
  if ← symbol .closeParen then return .spec partition order none .unstated .unstated
  else
    let units ← frameUnits
    if ← keyword "BETWEEN" then
      let start ← bound grammar interval
      expectKeyword "AND"
      let finish ← bound grammar interval
      expectSymbol .closeParen
      return .spec partition order (some units) start finish
    else
      let start ← bound grammar interval
      expectSymbol .closeParen
      return .spec partition order (some units) start .unstated

/-- The condition on the rows that an aggregate takes, where the dialect knows it. -/
def aggregateFilter : Parser (Option Expr) := do
  if (← dialect).filtersAggregates then
    if ← keyword "FILTER" then
      if ← symbol .openParen then
        if ← keyword "WHERE" then
          let condition ← grammar.expr
          expectSymbol .closeParen
          return some condition
        else return none
      else return none
    else return none
  else return none

/-- What a call does with nulls. -/
def nullTreatment : Parser (Option NullTreatment) := do
  match ← oneOf ["RESPECT", "IGNORE"] with
  | some word =>
    expectKeyword "NULLS"
    return some (if word == "RESPECT" then .respect else .ignore)
  | none => return none

/-- The window of a call. -/
def overWindow (interval : Parser Expr) : Parser (Option Window) := do
  if ← keyword "OVER" then
    if ← symbol .openParen then return some (← windowSpec grammar interval)
    else return some (.named (← ident))
  else return none

/-- A call of a function whose name was read. -/
def call (interval : Parser Expr) (name : QualifiedName) : Parser Expr := do
  expectSymbol .openParen
  let (distinctness, _) ← allOrDistinct grammar
  let (items, order) ← orderedArguments grammar
  let filter ← aggregateFilter grammar
  let nulls ← nullTreatment
  let window ← overWindow grammar interval
  return .call name false (distinctness != .all) items order filter nulls window

/-- A call of a function that may stand without parentheses. -/
def timeFunction (name : Ident) : Parser Expr := do
  if ← symbol .openParen then
    let (items, order) ← orderedArguments grammar
    return .call [name] false false items order none none none
  else return .call [name] true false [] [] none none none

/-- At most so many branches of a case distinction, whose first `WHEN` was read. -/
def caseBranchesUpTo : Nat → Parser (List (Expr × Expr))
  | 0 => return []
  | n + 1 => do
    let condition ← grammar.expr
    expectKeyword "THEN"
    let result ← grammar.expr
    if ← keyword "WHEN" then return (condition, result) :: (← caseBranchesUpTo n)
    else return [(condition, result)]

/-- A case distinction after `CASE`. -/
def caseRest : Parser Expr := do
  let operand ← do
    if ← keyword "WHEN" then pure none
    else
      let operand ← grammar.expr
      expectKeyword "WHEN"
      pure (some operand)
  let branches ← caseBranchesUpTo grammar ((← get).length + 1)
  let otherwise ← after "ELSE" grammar.expr
  expectKeyword "END"
  return .case operand (branches.map (·.1)) (branches.map (·.2)) otherwise

/-- The format of a conversion. -/
def castFormat : Parser (Option (Literal × Option Literal)) := do
  if ← keyword "FORMAT" then
    let value ← literal
    if ← keywords ["AT", "TIME", "ZONE"] then return some (value, some (← literal))
    else return some (value, none)
  else return none

/-- A conversion after its name. -/
def castRest (kind : Cast) : Parser Expr :=
  parenthesized do
    let operand ← grammar.expr
    expectKeyword "AS"
    let type ← dataType grammar
    return .cast kind operand type (← castFormat)

/-- A part of a moment after `EXTRACT`. -/
def extractRest : Parser Expr :=
  parenthesized do
    let field ← timeField
    expectKeyword "FROM"
    return .extract field (← grammar.expr)

/-- Rounding up or down after its name. -/
def roundRest (up : Bool) : Parser Expr :=
  parenthesized do
    let operand ← grammar.expr
    return .round up operand (← after "TO" timeField)

/-- The place of a text in another after `POSITION`. -/
def positionRest : Parser Expr := do
  expectSymbol .openParen
  let needle ← grammar.operand rangePrecedence
  if ← keyword "IN" then
    let haystack ← grammar.expr
    expectSymbol .closeParen
    return .position needle haystack
  else refuse "Position function must include IN keyword"

/-- A part of a text after `SUBSTRING`. -/
def substringRest : Parser Expr :=
  parenthesized do
    let operand ← grammar.expr
    let part (word : Keyword) : Parser (Option Expr) := do
      if ← keyword word <||> symbol .comma then return some (← grammar.expr)
      else return none
    let start ← part "FROM"
    return .substring operand start (← part "FOR")

/-- A replacement of a part of a text after `OVERLAY`. -/
def overlayRest : Parser Expr :=
  parenthesized do
    let operand ← grammar.expr
    expectKeyword "PLACING"
    let replacement ← grammar.expr
    expectKeyword "FROM"
    let start ← grammar.expr
    return .overlay operand replacement start (← after "FOR" grammar.expr)

/-- The removal of characters at the ends of a text after `TRIM`. -/
def trimRest : Parser Expr :=
  parenthesized do
    let side ← match ← oneOf ["BOTH", "LEADING", "TRAILING"] with
      | some "BOTH" => pure (some TrimSide.both)
      | some "LEADING" => pure (some TrimSide.leading)
      | some _ => pure (some TrimSide.trailing)
      | none => pure none
    let first ← grammar.expr
    if ← keyword "FROM" then return .trim side (some first) (← grammar.expr) []
    else
      if ← symbol .comma <&&> dialectIn [.generic] then
        return .trim none none first (← commaSeparated grammar.expr)
      else return .trim side none first []

/-- An array after its opening bracket. -/
def arrayRest (named : Bool) : Parser Expr := do
  if ← symbol .closeBracket then return .array named []
  else
    let items ← commaSeparated grammar.expr
    expectSymbol .closeBracket
    return .array named items

/-- An aggregate of the rows into an array after `ARRAY_AGG`. -/
def arrayAggregateRest : Parser Expr :=
  parenthesized do
    let distinct ← keyword "DISTINCT"
    let operand ← grammar.expr
    let order ← optionalOrder grammar
    let limit ← if ← keyword "LIMIT" then limitValue grammar else pure none
    return .arrayAggregate distinct operand order limit

/-- What a list aggregate does when its text grows too long. -/
def overflowRest : Parser (Overflow × Option Expr) := do
  if ← keyword "ERROR" then return (.error, none)
  else
    expectKeyword "TRUNCATE"
    let filler ← match tokenOf (← peek) with
      | some (.quoted .single _) | some (.quoted .escaped _) | some (.quoted .national _)
      | some (.quoted .hex _) => some <$> grammar.expr
      | some (.word ⟨_, _, some "WITH"⟩) | some (.word ⟨_, _, some "WITHOUT"⟩) => pure none
      | _ => expected "either filler, WITH, or WITHOUT in LISTAGG"
    let withCount ← keyword "WITH"
    if !withCount then
      unless ← keyword "WITHOUT" do
        expected "either WITH or WITHOUT in LISTAGG"
    expectKeyword "COUNT"
    return (.truncate withCount, filler)

/-- An aggregate of the rows into a text after `LISTAGG`. -/
def listAggregateRest : Parser Expr := do
  expectSymbol .openParen
  let (distinctness, _) ← allOrDistinct grammar
  let operand ← grammar.expr
  let separator ← if ← symbol .comma then some <$> grammar.expr else pure none
  let (overflow, filler) ← do
    if ← keywords ["ON", "OVERFLOW"] then overflowRest grammar else pure (.unstated, none)
  expectSymbol .closeParen
  let order ← do
    if ← keywords ["WITHIN", "GROUP"] then parenthesized (optionalOrder grammar) else pure []
  return .listAggregate (distinctness != .all) operand separator overflow filler order

/-- A search in texts after `MATCH`. -/
def searchRest : Parser Expr := do
  let names ← columns
  expectKeyword "AGAINST"
  parenthesized do
    let value ← literal
    let mode ← do
      if ← keywords ["IN", "NATURAL", "LANGUAGE", "MODE"] then
        if ← keywords ["WITH", "QUERY", "EXPANSION"] then
          pure (some "IN NATURAL LANGUAGE MODE WITH QUERY EXPANSION")
        else pure (some "IN NATURAL LANGUAGE MODE")
      else if ← keywords ["IN", "BOOLEAN", "MODE"] then pure (some "IN BOOLEAN MODE")
      else if ← keywords ["WITH", "QUERY", "EXPANSION"] then pure (some "WITH QUERY EXPANSION")
      else pure none
    return .searchText names value mode

/-- A field of a record type: a type, or a name and a type. -/
def recordField : Parser ((Option Ident × DataType) × Bool) := do
  let unnamed := match tokenOf (← peek) with
    | some (.word ⟨text, none, some word⟩) => text == word
    | _ => false
  let name ← if unnamed then pure none else some <$> ident
  let (type, closed) ← grammar.type
  return ((name, type), closed)

/-- At most so many fields of a record type. -/
def recordFieldsUpTo : Nat → Parser (List (Option Ident × DataType) × Bool)
  | 0 => return ([], false)
  | n + 1 => do
    let start ← peek
    let (field, closed) ← recordField grammar
    if ← symbol .comma then
      if closed then throw (.refused "unmatched > in STRUCT definition" start)
      else
        let (fields, lastClosed) ← recordFieldsUpTo n
        return (field :: fields, lastClosed)
    else return ([field], closed)

/-- A record with its values after `STRUCT`. -/
def recordRest : Parser Expr := do
  let fields ← do
    if ← symbol .less then
      let (fields, closed) ← recordFieldsUpTo grammar ((← get).length + 1)
      if ← closeAngle closed then refuse "unmatched > in STRUCT literal" else pure fields
    else pure []
  parenthesized do
    let values ← commaSeparated do
      let value ← grammar.expr
      if ← keyword "AS" then
        if fields.isEmpty then return Expr.labelled value true (← ident)
        else refuse "Typed syntax does not allow AS"
      else return value
    return .record fields values

/-- At most so many names after periods, and whether a wildcard ends them. -/
def namePathUpTo : Nat → List Ident → Parser (List Ident × Bool)
  | 0, path => return (path, false)
  | n + 1, path => do
    if ← symbol .period then
      let found ← next
      match tokenOf found with
      | some (.word w) => namePathUpTo n (path ++ [w.ident])
      | some (.quoted .single value) => namePathUpTo n (path ++ [⟨value, some '\''⟩])
      | some (.symbol .times) =>
        if (← dialect) = .postgres then return (path, true)
        else expectedAt "an identifier after '.'" found
      | _ => expectedAt "an identifier or a '*' after '.'" found
    else return (path, false)

/-- What a word starts that is no keyword here: a name, a call or a text with its character set. -/
def nameRest (interval : Parser Expr) (w : Word) : Parser Expr := do
  match tokenOf (← peek) with
  | some (.symbol .openParen) | some (.symbol .period) => do
    let (path, wildcard) ← namePathUpTo (← get).length [w.ident]
    if wildcard then return .qualifiedWildcard path
    else if (tokenOf (← peek)) == some (.symbol .openParen) then call grammar interval path
    else return .compound path
  | some (.quoted .single _) | some (.quoted .double _) | some (.quoted .hex _) =>
    if w.text.startsWith "_" then return .introduced w.text (← literal)
    else return .name w.ident
  | _ => return .name w.ident

/-- A query after an opening parenthesis, if one starts there. -/
def queryAhead : Parser (Option Query) := do
  if ← atKeyword "SELECT" <||> atKeyword "WITH" then return some (← grammar.query)
  else return none

/-- A query in parentheses. -/
def queryInParens : Parser Query :=
  parenthesized grammar.query

/-- What an opening parenthesis starts: a query, an expression or several of them. -/
def parenRest : Parser Expr := do
  let inner ← match ← queryAhead grammar with
    | some query => pure (.query query)
    | none => do
      match ← commaSeparated grammar.expr with
      | [single] => pure (.nested single)
      | items => pure (.tuple items)
  expectSymbol .closeParen
  if ← symbol .period then
    let found ← next
    match tokenOf found with
    | some (.word w) => return .field inner w.ident
    | _ => expectedAt "identifier" found
  else return inner

/-- A negation after `NOT`. -/
def negationRest : Parser Expr := do
  if ← keyword "EXISTS" then return .exists true (← queryInParens grammar)
  else return .unary .not (← grammar.operand negationPrecedence)

/-- What a word starts. -/
def wordRule (interval : Parser Expr) (w : Word) (start : List Located) : Parser Expr := do
  let dialect ← dialect
  let opens := tokenOf (← peek) == some (.symbol .openParen)
  match w.keyword with
  | some "TRUE" | some "FALSE" | some "NULL" => do
    set start
    return .literal (← literal)
  | some "CURRENT_TIMESTAMP" | some "CURRENT_TIME" | some "CURRENT_DATE" | some "LOCALTIME"
  | some "LOCALTIMESTAMP" => timeFunction grammar w.ident
  | some "CASE" => caseRest grammar
  | some "CAST" => castRest grammar .cast
  | some "TRY_CAST" => castRest grammar .tryCast
  | some "SAFE_CAST" => castRest grammar .safeCast
  | some "EXISTS" => return .exists false (← queryInParens grammar)
  | some "EXTRACT" => extractRest grammar
  | some "CEIL" => roundRest grammar true
  | some "FLOOR" => roundRest grammar false
  | some "SUBSTRING" => substringRest grammar
  | some "OVERLAY" => overlayRest grammar
  | some "TRIM" => trimRest grammar
  | some "INTERVAL" => interval
  | some "ARRAY_AGG" => arrayAggregateRest grammar
  | some "LISTAGG" => listAggregateRest grammar
  | some "NOT" => negationRest grammar
  | some "POSITION" => if opens then positionRest grammar else nameRest grammar interval w
  | some "ARRAY" =>
    if ← symbol .openBracket then arrayRest grammar true
    else if opens then return .arrayQuery (← queryInParens grammar)
    else nameRest grammar interval w
  | some "CURRENT_CATALOG" | some "CURRENT_USER" | some "SESSION_USER" | some "USER" =>
    if dialect = .postgres || dialect = .generic then
      return .call [w.ident] true false [] [] none none none
    else nameRest grammar interval w
  | some "MATCH" =>
    if dialect = .mySql || dialect = .generic then searchRest
    else nameRest grammar interval w
  | some "STRUCT" =>
    if dialect = .generic then recordRest grammar else nameRest grammar interval w
  | _ => nameRest grammar interval w

/-- A text with the name of its type before it, or an interval. -/
def typedText (interval : Parser Expr) : Parser Expr := do
  let type ← dataType grammar
  match type with
  | .plain "INTERVAL" => interval
  | .custom _ _ => throw (.refused "dummy" none)
  | _ => return .typed type (← literalText)

/-- What a symbol starts. -/
def symbolRule (mark : Symbol) (found : Option Located) (start : List Located) :
    Parser Expr := do
  let dialect ← dialect
  let value : Parser Expr := do
    set start
    return .literal (← literal)
  let postgresOnly (operator : UnaryOperator) : Parser Expr := do
    if dialect = .postgres then return .unary operator (← grammar.operand sumPrecedence)
    else expectedAt "an expression:" found
  match mark with
  | .openBracket => arrayRest grammar false
  | .minus => return .unary .minus (← grammar.operand productPrecedence)
  | .plus => return .unary .plus (← grammar.operand productPrecedence)
  | .doubleExclamation => postgresOnly .leadingFactorial
  | .squareRoot => postgresOnly .squareRoot
  | .cubeRoot => postgresOnly .cubeRoot
  | .tilde => postgresOnly .bitwiseNot
  | .atSign => if dialect = .postgres then postgresOnly .magnitude else value
  | .colon => value
  | .openParen => parenRest grammar
  | _ => expectedAt "an expression:" found

/-- The leading part of an expression, given the rule for intervals. -/
def leadingWith (interval : Parser Expr) : Parser Expr := do
  match ← attempt (typedText grammar interval) with
  | some typed => return typed
  | none =>
    let start ← get
    let found ← next
    let value : Parser Expr := do
      set start
      return .literal (← literal)
    let expr ← match tokenOf found with
      | some (.word w) => wordRule grammar interval w start
      | some (.symbol mark) => symbolRule grammar mark found start
      | some (.quoted .escaped _) =>
        if ← dialectIn [.postgres, .generic] then value else expectedAt "an expression:" found
      | some (.number _ _) | some (.quoted _ _) | some (.dollarQuoted _ _)
      | some (.placeholder _) => value
      | _ => expectedAt "an expression:" found
    if ← keyword "COLLATE" then return .collate expr (← qualifiedName)
    else return expr

/-- The operator on two operands that a token spells. -/
def binaryOperator (token : Token) : Parser (Option BinaryOperator) := do
  let dialect ← dialect
  let only (dialects : List Dialect) (mark : Symbol) : Option BinaryOperator :=
    if dialects.contains dialect then some (.symbol mark) else none
  match token with
  | .symbol .doubleEqual => return some (.symbol .equal)
  | .symbol .integerDivide => return only [.duckDb, .generic] .integerDivide
  | .symbol .shiftLeft => return only [.postgres, .duckDb, .generic] .shiftLeft
  | .symbol .shiftRight => return only [.postgres, .duckDb, .generic] .shiftRight
  | .symbol .sharp => return only [.postgres] .sharp
  | .symbol .doubleAmpersand => return only [.postgres, .generic] .doubleAmpersand
  | .symbol mark =>
    if [Symbol.spaceship, .equal, .notEqual, .greater, .greaterEqual, .less, .lessEqual, .plus,
        .minus, .times, .modulo, .concat, .pipe, .caret, .ampersand, .divide, .tilde, .tildeStar,
        .notTilde, .notTildeStar].contains mark then
      return some (.symbol mark)
    else return none
  | .word ⟨_, _, some "AND"⟩ => return some (.keyword "AND")
  | .word ⟨_, _, some "OR"⟩ => return some (.keyword "OR")
  | .word ⟨_, _, some "XOR"⟩ => return some (.keyword "XOR")
  | .word ⟨_, _, some "OPERATOR"⟩ =>
    if dialect = .postgres || dialect = .generic then
      parenthesized do
        return some (.named (← partsUpTo ((← get).length + 1)))
    else return none
  | _ => return none
where
  /-- At most so many parts of the name of an operator. -/
  partsUpTo : Nat → Parser (List String)
    | 0 => return []
    | n + 1 => do
      let part := ((tokenOf (← next)).map Token.text).getD "EOF"
      if ← symbol .period then return part :: (← partsUpTo n) else return [part]

/-- A comparison may be made with any or with all values of a list. -/
def binaryRest (left : Expr) (operator : BinaryOperator) (found : Located) (precedence : Nat) :
    Parser Expr := do
  match ← oneOf ["ANY", "ALL"] with
  | some word =>
    let right ← parenthesized (grammar.operand precedence)
    if [BinaryOperator.symbol .greater, .symbol .less, .symbol .greaterEqual, .symbol .lessEqual,
        .symbol .equal, .symbol .notEqual].contains operator then
      return .quantified left operator (word == "ALL") right
    else
      throw (.refused
        ("Expected one of [=, >, <, =>, =<, !=] as comparison operator, found: " ++ operator.sql)
        (some found))
  | none => return .binary left operator (← grammar.operand precedence)

/-- A test after `IS`. -/
def isRest (operand : Expr) : Parser Expr := do
  if ← keyword "NULL" then return .test operand false .isNull
  else if ← keywords ["NOT", "NULL"] then return .test operand true .isNull
  else if ← keyword "TRUE" then return .test operand false .isTrue
  else if ← keywords ["NOT", "TRUE"] then return .test operand true .isTrue
  else if ← keyword "FALSE" then return .test operand false .isFalse
  else if ← keywords ["NOT", "FALSE"] then return .test operand true .isFalse
  else if ← keyword "UNKNOWN" then return .test operand false .isUnknown
  else if ← keywords ["NOT", "UNKNOWN"] then return .test operand true .isUnknown
  else if ← keywords ["DISTINCT", "FROM"] then return .distinctFrom operand false (← grammar.expr)
  else if ← keywords ["NOT", "DISTINCT", "FROM"] then
    return .distinctFrom operand true (← grammar.expr)
  else expected "[NOT] NULL or TRUE|FALSE or [NOT] DISTINCT FROM after IS"

/-- A membership test after `IN`. -/
def inRest (operand : Expr) (negated : Bool) : Parser Expr := do
  if ← keyword "UNNEST" then
    return .inUnnest operand negated (← parenthesized grammar.expr)
  else
    parenthesized do
      match ← queryAhead grammar with
      | some query => return .inQuery operand negated query
      | none => return .inList operand negated (← commaSeparated grammar.expr)

/-- A comparison with a pattern after its keywords. -/
def matchingRest (operand : Expr) (negated : Bool) (kind : Match) : Parser Expr := do
  let pattern ← grammar.operand patternPrecedence
  if kind = .regexp || kind = .rlike then return .matching operand negated kind pattern none
  else
    let escape ← after "ESCAPE" literalChar
    return .matching operand negated kind pattern escape

/-- A comparison with a range, a list or a pattern, which may be negated. -/
def comparisonRest (operand : Expr) : Parser Expr := do
  let negated ← keyword "NOT"
  if ← keyword "REGEXP" then matchingRest grammar operand negated .regexp
  else if ← keyword "RLIKE" then matchingRest grammar operand negated .rlike
  else if ← keyword "IN" then inRest grammar operand negated
  else if ← keyword "BETWEEN" then
    let low ← grammar.operand rangePrecedence
    expectKeyword "AND"
    return .between operand negated low (← grammar.operand rangePrecedence)
  else if ← keyword "LIKE" then matchingRest grammar operand negated .like
  else if ← keyword "ILIKE" then matchingRest grammar operand negated .ilike
  else if ← keywords ["SIMILAR", "TO"] then matchingRest grammar operand negated .similar
  else expected "IN or BETWEEN after NOT"

/-- A key of a map. -/
def mapKey (interval : Parser Expr) : Parser Expr := do
  let found ← next
  match tokenOf found with
  | some (.word ⟨text, _, none⟩) =>
    if tokenOf (← peek) == some (.symbol .openParen) then
      call grammar interval [⟨text, none⟩]
    else return .literal (.quoted .single text)
  | some (.quoted .single value) => return .literal (.quoted .single value)
  | some (.number digits _) => return .literal (.number digits false)
  | _ => expectedAt "literal string, number or function" found

/-- At most so many keys, whose first opening bracket was read; closing brackets may be left out. -/
def mapKeysUpTo (interval : Parser Expr) : Nat → Parser (List Expr)
  | 0 => return []
  | n + 1 => do
    let key ← mapKey grammar interval
    discard (symbol .closeBracket)
    if ← symbol .openBracket then return key :: (← mapKeysUpTo interval n) else return [key]

/-- At most so many indexes, whose first opening bracket was read. -/
def indexesUpTo : Nat → Parser (List Expr)
  | 0 => return []
  | n + 1 => do
    let index ← grammar.expr
    expectSymbol .closeBracket
    if ← symbol .openBracket then return index :: (← indexesUpTo n) else return [index]

/--
What an opening bracket after an operand starts.  Where the brackets hold the keys of a map, only
names have elements; the brackets after anything else are read and not kept.
-/
def bracketRest (interval : Parser Expr) (operand : Expr) : Parser Expr := do
  let steps := (← get).length + 1
  if (← dialect).indexesByExpression then return .index operand (← indexesUpTo grammar steps)
  else
    let keys ← mapKeysUpTo grammar interval steps
    match operand with
    | .name _ | .compound _ => return .lookup operand keys
    | _ => return operand

/-- One operator of a given precedence and what follows it, given the operand before it. -/
def followingRule (interval : Parser Expr) (operand : Expr) (precedence : Nat) : Parser Expr := do
  if ← dialectIn [.mySql] <&&> keyword "DIV" then
    return .binary operand (.keyword "DIV") (← grammar.expr)
  let start ← get
  match ← next with
  | none => expected "an expression:"
  | some found =>
    match ← binaryOperator found.token with
    | some operator => binaryRest grammar operand operator found precedence
    | none =>
      match found.token with
      | .word ⟨_, _, some "IS"⟩ => isRest grammar operand
      | .word ⟨_, _, some "AT"⟩ =>
        if ← keywords ["TIME", "ZONE"] then
          let zone ← next
          match tokenOf zone with
          | some (.quoted .single value) => return .atTimeZone operand value
          | _ => expectedAt "Expected Token::SingleQuotedString after AT TIME ZONE" zone
        else expectedAt "Expected Token::Word after AT" (some found)
      | .word ⟨_, _, some word⟩ =>
        if ["NOT", "IN", "BETWEEN", "LIKE", "ILIKE", "SIMILAR", "REGEXP", "RLIKE"].contains word
        then
          set start
          comparisonRest grammar operand
        else throw (.noInfixRule found)
      | .symbol .doubleColon => return .cast .cast operand (← dataType grammar) none
      | .symbol .exclamation => return .unary .trailingFactorial operand
      | .symbol .openBracket => bracketRest grammar interval operand
      | .symbol .colon => return .binary operand (.symbol .colon) (.literal (← literal))
      | .symbol mark =>
        if [Symbol.arrow, .longArrow, .hashArrow, .hashLongArrow, .atArrow, .arrowAt, .hashMinus,
            .atQuestion, .doubleAt].contains mark then
          return .binary operand (.symbol mark) (← grammar.expr)
        else throw (.noInfixRule found)
      | _ => throw (.noInfixRule found)

/-- At most so many operators that bind more tightly than a precedence, and what follows them. -/
def operatorsUpTo (interval : Parser Expr) (precedence : Parser Nat) (least : Nat) :
    Nat → Expr → Parser Expr
  | 0, operand => return operand
  | n + 1, operand => do
    let found ← precedence
    if least ≥ found then return operand
    else
      let extended ← followingRule grammar interval operand found
      operatorsUpTo interval precedence least n extended

/-- The precedence of the next operator inside the value of an interval. -/
def intervalPrecedence : Parser Nat := do
  match (← peek).bind (·.token.keyword?) with
  | some "AND" | some "OR" | some "XOR" => return 0
  | _ => nextPrecedence

/-- At most so many intervals inside each other, after `INTERVAL`. -/
def intervalUpTo : Nat → Parser Expr
  | 0 => expected "an expression:"
  | n + 1 => do
    let first ← leadingWith grammar (intervalUpTo n)
    let value ← operatorsUpTo grammar (intervalUpTo n) intervalPrecedence 0
      ((← get).length + 1) first
    intervalRest value

/-- An interval after `INTERVAL`. -/
def intervalRule : Parser Expr := do
  intervalUpTo grammar ((← get).length + 1)

/-- An expression whose operators bind more tightly than a precedence. -/
def operandRule (least : Nat) : Parser Expr := do
  let first ← leadingWith grammar (intervalRule grammar)
  operatorsUpTo grammar (intervalRule grammar) nextPrecedence least ((← get).length + 1) first

end Rules

end Querent.Sql.Parser

import Querent.Sql.Grammar.Definition

/-!
# Commands

The rules for statements that neither query nor define nor change data: settings, transactions,
privileges, cursors, prepared statements and the like.  Each rule yields the canonical text of its
statement.
-/

namespace Querent.Sql.Parser

/-- A statement that is no query and no change, in its canonical text. -/
def other (text : String) : Statement :=
  .command .other text

section Rules

variable (grammar : Grammar)

/-- The end of a session after `KILL`. -/
def killRest : Parser Statement := do
  let kind ← oneOf ["CONNECTION", "QUERY", "MUTATION"]
  let number ← wholeNumber
  if ← pure (kind == some "MUTATION") <&&> (not <$> dialectIn [.generic]) then
    expected "Unsupported type for KILL, allowed: CONNECTION | QUERY"
  else return other ("KILL " ++ optionClause "" (kind.map (· ++ " ")) ++ toString number)

/-- The format in which a plan is shown. -/
def planFormat : Parser Keyword := do
  let found ← next
  match found.bind (·.token.keyword?) with
  | some "TEXT" => return "TEXT"
  | some "GRAPHVIZ" => return "GRAPHVIZ"
  | some "JSON" => return "JSON"
  | _ => expectedAt "fileformat" found

/-- The plan of a statement or the description of a table, after `EXPLAIN` or `DESCRIBE`. -/
def explainRest (word : Keyword) : Parser Statement := do
  let analyze ← keyword "ANALYZE"
  let verbose ← keyword "VERBOSE"
  let format ← after "FORMAT" planFormat
  let explains ← atKeyword "EXPLAIN" <||> atKeyword "DESCRIBE"
  match ← attempt grammar.statement with
  | some statement =>
    if explains then throw (.refused "Explain must be root of the plan" none)
    else
      return other
        (word ++ " " ++ onlyIf analyze "ANALYZE " ++ onlyIf verbose "VERBOSE " ++
          optionClause "FORMAT " (format.map (· ++ " ")) ++ statement.sql)
  | none => return other (word ++ " " ++ QualifiedName.sql (← qualifiedName))

/-- What is computed about a table. -/
structure Analysis where
  partition : String
  compute : Bool
  noScan : Bool
  cache : Bool
  columns : Option (List Ident)

/-- At most so many parts of what is computed about a table. -/
def analysisUpTo : Nat → Analysis → Parser Analysis
  | 0, analysis => return analysis
  | n + 1, analysis => do
    match ← partitionClause grammar with
    | some partition => analysisUpTo n { analysis with partition := " " ++ partition }
    | none =>
      match ← oneOf ["NOSCAN", "FOR", "CACHE", "COMPUTE"] with
      | some "NOSCAN" => analysisUpTo n { analysis with noScan := true }
      | some "FOR" =>
        expectKeyword "COLUMNS"
        let columns := (← attempt (commaSeparated ident)).getD []
        analysisUpTo n { analysis with columns := some columns }
      | some "CACHE" =>
        expectKeyword "METADATA"
        analysisUpTo n { analysis with cache := true }
      | some _ =>
        expectKeyword "STATISTICS"
        analysisUpTo n { analysis with compute := true }
      | none => return analysis

/-- Statistics of a table after `ANALYZE`. -/
def analyzeRest : Parser Statement := do
  expectKeyword "TABLE"
  let name ← qualifiedName
  let analysis ← analysisUpTo grammar ((← get).length + 1) ⟨"", false, false, false, none⟩
  return other
    ("ANALYZE TABLE " ++ QualifiedName.sql name ++ analysis.partition ++
      onlyIf analysis.compute " COMPUTE STATISTICS" ++ onlyIf analysis.noScan " NOSCAN" ++
      onlyIf analysis.cache " CACHE METADATA" ++
      optionClause " FOR COLUMNS" (analysis.columns.map (blankBefore <| identList ·)))

/-- The removal of all rows of a table after `TRUNCATE`. -/
def truncateRest : Parser Statement := do
  let tableKeyword ← keyword "TABLE"
  let name ← qualifiedName
  let partition ← partitionClause grammar
  return .command .ddl
    ("TRUNCATE " ++ onlyIf tableKeyword "TABLE " ++ QualifiedName.sql name ++
      optionClause " " partition)

/-- A file that becomes a database after `ATTACH`. -/
def attachRest : Parser Statement := do
  let databaseKeyword ← keyword "DATABASE"
  let file ← grammar.expr
  expectKeyword "AS"
  let name ← ident
  return other
    ("ATTACH " ++ onlyIf databaseKeyword "DATABASE " ++ file.sql ++ " AS " ++ name.sql)

/-- A repair of the partitions of a table after `MSCK`. -/
def repairRest : Parser Statement := do
  let repair ← keyword "REPAIR"
  expectKeyword "TABLE"
  let name ← qualifiedName
  let action ← attempt do
    let word ← oneOf ["ADD", "DROP", "SYNC"]
    expectKeyword "PARTITIONS"
    return word
  return other
    ("MSCK " ++ onlyIf repair "REPAIR " ++ "TABLE " ++ QualifiedName.sql name ++
      optionClause " " (action.join.map (· ++ " PARTITIONS")))

/-- A query that is kept in memory after `CACHE`. -/
def cacheRest : Parser Statement := do
  let flag ← if ← atKeyword "TABLE" then pure none else some <$> qualifiedName
  if ← keyword "TABLE" then
    let name ← qualifiedName
    let options ← do
      if ← keyword "OPTIONS" then
        pure (" OPTIONS(" ++ commaJoined (← parenthesized (commaSeparated optionValue)) ++ ")")
      else pure ""
    let query ←
      match tokenOf (← peek) with
      | none => pure ""
      | some (.word _) =>
        let afterAs ← keyword "AS"
        pure (onlyIf afterAs " AS" ++ " " ++ (← grammar.query).sql)
      | some _ => expected "a QUERY statement"
    return other
      ("CACHE " ++ optionClause "" (flag.map fun name => QualifiedName.sql name ++ " ") ++
        "TABLE " ++ QualifiedName.sql name ++ options ++ query)
  else expected "a \x60TABLE\x60 keyword"

/-- A query that is no longer kept in memory after `UNCACHE`. -/
def uncacheRest : Parser Statement := do
  if ← keyword "TABLE" then
    let missing ← ifExists
    return other ("UNCACHE TABLE " ++ missing ++ QualifiedName.sql (← qualifiedName))
  else expected "a \x60TABLE\x60 keyword"

/-- What a session forgets after `DISCARD`. -/
def discardRest : Parser Statement := do
  if ← keyword "ALL" then return other "DISCARD ALL"
  else if ← keyword "PLANS" then return other "DISCARD PLANS"
  else if ← keyword "SEQUENCES" then return other "DISCARD SEQUENCES"
  else if ← keyword "TEMP" <||> keyword "TEMPORARY" then return other "DISCARD TEMP"
  else expected "ALL, PLANS, SEQUENCES, TEMP or TEMPORARY after DISCARD"

/-- A cursor after `DECLARE`. -/
def declareRest : Parser Statement := do
  let name ← ident
  let binary ← keyword "BINARY"
  let sensitive ← oneOf ["INSENSITIVE", "ASENSITIVE"]
  let scroll ← do
    if ← keyword "SCROLL" then pure "SCROLL "
    else if ← keywords ["NO", "SCROLL"] then pure "NO SCROLL "
    else pure ""
  expectKeyword "CURSOR"
  let hold ← oneOf ["WITH", "WITHOUT"]
  if hold.isSome then expectKeyword "HOLD"
  expectKeyword "FOR"
  let query ← grammar.query
  return other
    ("DECLARE " ++ name.sql ++ " " ++ onlyIf binary "BINARY " ++
      optionClause "" (sensitive.map (· ++ " ")) ++ scroll ++ "CURSOR " ++
      optionClause "" (hold.map (· ++ " HOLD ")) ++ "FOR " ++ query.sql)

/-- The rows that a cursor is asked for. -/
def fetchDirection : Parser String := do
  let number : Parser String := Literal.sql <$> numberValue
  match ← oneOf ["NEXT", "PRIOR", "FIRST", "LAST", "ABSOLUTE", "RELATIVE", "FORWARD", "BACKWARD",
      "ALL"] with
  | some "ABSOLUTE" => return "ABSOLUTE " ++ (← number)
  | some "RELATIVE" => return "RELATIVE " ++ (← number)
  | some "FORWARD" =>
    if ← keyword "ALL" then return "FORWARD ALL" else return "FORWARD " ++ (← number)
  | some "BACKWARD" =>
    if ← keyword "ALL" then return "BACKWARD ALL" else return "BACKWARD " ++ (← number)
  | some word => return word
  | none => number

/-- Rows of a cursor after `FETCH`. -/
def fetchStatement : Parser Statement := do
  let direction ← fetchDirection
  discard (expectOneOf ["FROM", "IN"])
  let name ← ident
  let into ← after "INTO" qualifiedName
  return other
    ("FETCH " ++ direction ++ " IN " ++ name.sql ++ optionClause " INTO " (into.map QualifiedName.sql))

/-- An option of a transfer of rows. -/
def copyOption : Parser String := do
  let flag (word : Keyword) : Parser String := do
    match ← oneOf ["TRUE", "FALSE"] with
    | some "FALSE" => return word ++ " FALSE"
    | _ => return word
  let char (word : Keyword) : Parser String := do
    return word ++ " '" ++ String.singleton (← literalChar) ++ "'"
  let text (word : Keyword) : Parser String := do
    return word ++ " " ++ quoteText '\'' (← literalText)
  let names (word : Keyword) : Parser String := do
    return word ++ " (" ++ identList (← columns) ++ ")"
  match ← oneOf ["FORMAT", "FREEZE", "DELIMITER", "NULL", "HEADER", "QUOTE", "ESCAPE",
      "FORCE_QUOTE", "FORCE_NOT_NULL", "FORCE_NULL", "ENCODING"] with
  | some "FORMAT" => return "FORMAT " ++ (← ident).sql
  | some "FREEZE" => flag "FREEZE"
  | some "DELIMITER" => char "DELIMITER"
  | some "NULL" => text "NULL"
  | some "HEADER" => flag "HEADER"
  | some "QUOTE" => char "QUOTE"
  | some "ESCAPE" => char "ESCAPE"
  | some "ENCODING" => text "ENCODING"
  | some word => names word
  | none => expected "option"

/-- An option of a transfer of texts between commas, in the older form. -/
def csvOption : Parser (Option String) := do
  let char (word : Keyword) : Parser (Option String) := do
    discard (keyword "AS")
    return some (word ++ " '" ++ String.singleton (← literalChar) ++ "'")
  if ← keyword "HEADER" then return some "HEADER"
  else if ← keyword "QUOTE" then char "QUOTE"
  else if ← keyword "ESCAPE" then char "ESCAPE"
  else if ← keywords ["FORCE", "NOT", "NULL"] then
    return some ("FORCE NOT NULL " ++ identList (← commaSeparated ident))
  else if ← keywords ["FORCE", "QUOTE"] then
    return some ("FORCE QUOTE " ++ identList (← commaSeparated ident))
  else return none

/-- An option of a transfer of rows in the older form. -/
def legacyCopyOption : Parser (Option String) := do
  if ← keyword "BINARY" then return some "BINARY"
  else if ← keyword "DELIMITER" then
    discard (keyword "AS")
    return some ("DELIMITER '" ++ String.singleton (← literalChar) ++ "'")
  else if ← keyword "NULL" then
    discard (keyword "AS")
    return some ("NULL " ++ quoteText '\'' (← literalText))
  else if ← keyword "CSV" then
    let options ← many (Option.join <$> attempt csvOption)
    return some (" ".intercalate ("CSV" :: options))
  else return none

/-- The source of a transfer of rows, and whether it is a query. -/
def copySource : Parser (String × Bool) := do
  if ← symbol .openParen then
    let query ← grammar.query
    expectSymbol .closeParen
    return ("(" ++ query.sql ++ ")", true)
  else
    let name ← qualifiedName
    let names ← optionalColumns
    return (QualifiedName.sql name ++ blankBefore (columnsText names), false)

/-- A transfer of rows after `COPY`.  Rows that follow the statement itself are read with it. -/
def copyRest : Parser Statement := do
  let (source, isQuery) ← copySource grammar
  let direction ← match ← oneOf ["FROM", "TO"] with
    | some word => pure word
    | none => expected "FROM or TO"
  if isQuery && direction == "FROM" then
    throw (.refused "COPY ... FROM does not support query as a source" none)
  else
    let target ← match ← oneOf ["STDIN", "STDOUT", "PROGRAM"] with
      | some "PROGRAM" => pure ("PROGRAM " ++ quoteText '\'' (← literalText))
      | some word => pure word
      | none => quoteText '\'' <$> literalText
    discard (keyword "WITH")
    let options ← do
      if ← symbol .openParen then
        let options ← commaSeparated copyOption
        expectSymbol .closeParen
        pure options
      else pure []
    let legacy ← many (Option.join <$> attempt legacyCopyOption)
    if target == "STDIN" then
      expectSymbol .semicolon
      set ([] : List Located)
    return other
      ("COPY " ++ source ++ " " ++ direction ++ " " ++ target ++
        onlyIf (!options.isEmpty) (" (" ++ commaJoined options ++ ")") ++
        onlyIf (!legacy.isEmpty) (" " ++ " ".intercalate legacy))

/-- The end of a cursor after `CLOSE`. -/
def closeRest : Parser Statement := do
  if ← keyword "ALL" then return other "CLOSE ALL" else return other ("CLOSE " ++ (← ident).sql)

/-- How much a transaction sees of others. -/
def isolationLevel : Parser String := do
  if ← keywords ["READ", "UNCOMMITTED"] then return "READ UNCOMMITTED"
  else if ← keywords ["READ", "COMMITTED"] then return "READ COMMITTED"
  else if ← keywords ["REPEATABLE", "READ"] then return "REPEATABLE READ"
  else if ← keyword "SERIALIZABLE" then return "SERIALIZABLE"
  else expected "isolation level"

/-- At most so many modes of a transaction; after a comma, one is required. -/
def transactionModesUpTo : Nat → Bool → Parser (List String)
  | 0, _ => return []
  | n + 1, required => do
    let mode ← do
      if ← keywords ["ISOLATION", "LEVEL"] then pure (some ("ISOLATION LEVEL " ++ (← isolationLevel)))
      else if ← keywords ["READ", "ONLY"] then pure (some "READ ONLY")
      else if ← keywords ["READ", "WRITE"] then pure (some "READ WRITE")
      else if required then expected "transaction mode"
      else pure none
    match mode with
    | some text => return text :: (← transactionModesUpTo n (← symbol .comma))
    | none => return []

/-- The modes of a transaction, with their introduction. -/
def transactionModes : Parser String := do
  return listClause " " (← transactionModesUpTo ((← get).length + 1) false)

/-- A role that is taken, after `SET` and its modifier. -/
def setRole (modifier : Option Keyword) : Parser Statement := do
  expectKeyword "ROLE"
  let name ← if ← keyword "NONE" then pure "NONE" else pure (← ident).sql
  return other ("SET" ++ optionClause " " modifier ++ " ROLE " ++ name)

/--
An expression in the place of a value.  A value that cannot be read is reported at the token after
the one where it starts.
-/
def valueOr (what : String) : Parser Expr := do
  match ← attempt grammar.expr with
  | some value => return value
  | none =>
    discard next
    expected what

/-- A setting whose name was read. -/
def setVariable (modifier : Option Keyword) (name : QualifiedName) : Parser Statement := do
  let text := QualifiedName.sql name
  let upper := String.ofList (text.toList.map Char.toUpper)
  let localWord := onlyIf (modifier == some "LOCAL") "LOCAL "
  if ← pure (upper == "NAMES") <&&> dialectIn [.mySql, .generic] then
    if ← keyword "DEFAULT" then return other "SET NAMES DEFAULT"
    else
      let charset ← literalText
      let collation ← after "COLLATE" literalText
      return other ("SET NAMES " ++ charset ++ optionClause " COLLATE " collation)
  else if ← symbol .equal <||> keyword "TO" then
    let values ← commaSeparated (valueOr grammar "variable value")
    return other
      ("SET " ++ localWord ++ onlyIf (modifier == some "HIVEVAR") "HIVEVAR:" ++ text ++ " = " ++
        commaJoined (Expr.sqls values))
  else if upper == "TIMEZONE" then
    return other ("SET " ++ localWord ++ "TIME ZONE " ++ (← valueOr grammar "timezone value").sql)
  else if text == "CHARACTERISTICS" then
    expectKeywords ["AS", "TRANSACTION"]
    return other ("SET SESSION CHARACTERISTICS AS TRANSACTION" ++ (← transactionModes))
  else if text == "TRANSACTION" && modifier.isNone then
    if ← keyword "SNAPSHOT" then
      return other ("SET TRANSACTION SNAPSHOT " ++ (← literal).sql)
    else return other ("SET TRANSACTION" ++ (← transactionModes))
  else expected "equals sign or TO"

/-- A setting after `SET`. -/
def setRest : Parser Statement := do
  let modifier ← oneOf ["SESSION", "LOCAL", "HIVEVAR"]
  let role ← do
    if modifier == some "HIVEVAR" then
      expectSymbol .colon
      pure none
    else attempt (setRole modifier)
  match role with
  | some statement => return statement
  | none =>
    let name ← do
      if ← keywords ["TIME", "ZONE"] then pure [(⟨"TIMEZONE", none⟩ : Ident)] else qualifiedName
    setVariable grammar modifier name

/-- Which of the shown things are wanted, with an introduction. -/
def showFilter : Parser String := do
  if ← keyword "LIKE" then return " LIKE " ++ quoteText '\'' (← literalText)
  else if ← keyword "ILIKE" then
    let inner := doubleQuotes '\'' (Char.ofNat 0) false (← literalText).toList
    return " ILIKE " ++ String.ofList inner
  else whereClause grammar

/-- The columns of a table that are shown. -/
def showColumns (words : String) : Parser Statement := do
  discard (expectOneOf ["FROM", "IN"])
  let name ← qualifiedName
  let table ← do
    if (← oneOf ["FROM", "IN"]).isSome then pure ((← ident) :: name) else pure name
  return other (words ++ "COLUMNS FROM " ++ QualifiedName.sql table ++ (← showFilter grammar))

/-- Something that is shown, after `SHOW`. -/
def showRest : Parser Statement := do
  let extended ← keyword "EXTENDED"
  let full ← keyword "FULL"
  let words := "SHOW " ++ onlyIf extended "EXTENDED " ++ onlyIf full "FULL "
  if (← oneOf ["COLUMNS", "FIELDS"]).isSome then showColumns grammar words
  else if ← keyword "TABLES" then
    let database ← if (← oneOf ["FROM", "IN"]).isSome then some <$> ident else pure none
    return other
      (words ++ "TABLES" ++ optionClause " FROM " (database.map Ident.sql) ++ (← showFilter grammar))
  else if ← keyword "FUNCTIONS" then return other ("SHOW FUNCTIONS" ++ (← showFilter grammar))
  else if extended || full then
    throw (.refused "EXTENDED/FULL are not supported with this type of SHOW query" none)
  else if ← keyword "CREATE" then
    let kind ← expectOneOf ["TABLE", "TRIGGER", "FUNCTION", "PROCEDURE", "EVENT", "VIEW"]
    return other ("SHOW CREATE " ++ kind ++ " " ++ QualifiedName.sql (← qualifiedName))
  else if ← keyword "COLLATION" then return other ("SHOW COLLATION" ++ (← showFilter grammar))
  else if ← keyword "VARIABLES" <&&> dialectIn [.mySql, .generic] then
    return other ("SHOW VARIABLES" ++ (← showFilter grammar))
  else
    let names ← wordsToEqual
    return other ("SHOW" ++ onlyIf (!names.isEmpty) (" " ++ " ".intercalate (names.map Ident.sql)))

/-- The privileges that can be granted. -/
def privileges : List Keyword :=
  ["CONNECT", "CREATE", "DELETE", "EXECUTE", "INSERT", "REFERENCES", "SELECT", "TEMPORARY",
    "TRIGGER", "TRUNCATE", "UPDATE", "USAGE"]

/-- A privilege, which may be limited to some columns. -/
def privilege : Parser String := do
  match ← oneOf privileges with
  | some word =>
    let names ← do
      if ["INSERT", "REFERENCES", "SELECT", "UPDATE"].contains word then optionalColumns
      else pure []
    return word ++ blankBefore (columnsText names)
  | none => expected "a privilege keyword"

/-- Privileges and the objects that they are for, up to the roles. -/
def privilegesOnObjects : Parser String := do
  let granted ← do
    if ← keyword "ALL" then pure ("ALL" ++ onlyIf (← keyword "PRIVILEGES") " PRIVILEGES")
    else commaJoined <$> commaSeparated privilege
  expectKeyword "ON"
  let names : Parser String := do
    return commaJoined ((← commaSeparated qualifiedName).map QualifiedName.sql)
  let objects ← do
    if ← keywords ["ALL", "TABLES", "IN", "SCHEMA"] then
      pure ("ALL TABLES IN SCHEMA " ++ (← names))
    else if ← keywords ["ALL", "SEQUENCES", "IN", "SCHEMA"] then
      pure ("ALL SEQUENCES IN SCHEMA " ++ (← names))
    else
      match ← oneOf ["SEQUENCE", "SCHEMA", "TABLE"] with
      | some "SEQUENCE" => pure ("SEQUENCE " ++ (← names))
      | some "SCHEMA" => pure ("SCHEMA " ++ (← names))
      | _ => names
  return granted ++ " ON " ++ objects

/-- The role that grants or revokes, with its introduction. -/
def grantor : Parser String := do
  if ← keywords ["GRANTED", "BY"] then return " GRANTED BY " ++ (← ident).sql else return ""

/-- Privileges that are granted, after `GRANT`. -/
def grantRest : Parser Statement := do
  let objects ← privilegesOnObjects
  expectKeyword "TO"
  let roles ← commaSeparated ident
  let option ← keywords ["WITH", "GRANT", "OPTION"]
  return other
    ("GRANT " ++ objects ++ " TO " ++ identList roles ++ onlyIf option " WITH GRANT OPTION" ++
      (← grantor))

/-- Privileges that are revoked, after `REVOKE`. -/
def revokeRest : Parser Statement := do
  let objects ← privilegesOnObjects
  expectKeyword "FROM"
  let roles ← commaSeparated ident
  let by_ ← grantor
  let place ← peek
  let cascade ← keyword "CASCADE"
  let restrict ← keyword "RESTRICT"
  if cascade && restrict then
    throw (.refused "Cannot specify both CASCADE and RESTRICT in REVOKE" place)
  else
    return other
      ("REVOKE " ++ objects ++ " FROM " ++ identList roles ++ by_ ++
        (if cascade then " CASCADE" else " RESTRICT"))

/-- Whether a new transaction follows the one that ends. -/
def chained : Parser String := do
  discard (oneOf ["TRANSACTION", "WORK"])
  if ← keyword "AND" then
    let refused ← keyword "NO"
    expectKeyword "CHAIN"
    return onlyIf (!refused) " AND CHAIN"
  else return ""

/-- A condition that must hold, after `ASSERT`. -/
def assertRest : Parser Statement := do
  let condition ← grammar.expr
  return other
    ("ASSERT " ++ condition.sql ++ Expr.clause " AS " (← after "AS" grammar.expr))

/-- A prepared statement that is forgotten, after `DEALLOCATE`. -/
def deallocateRest : Parser Statement := do
  let prepareKeyword ← keyword "PREPARE"
  return other ("DEALLOCATE " ++ onlyIf prepareKeyword "PREPARE " ++ (← ident).sql)

/-- A prepared statement that is run, after `EXECUTE`. -/
def executeRest : Parser Statement := do
  let name ← ident
  if ← symbol .openParen then
    let values ← commaSeparated grammar.expr
    expectSymbol .closeParen
    return other ("EXECUTE " ++ name.sql ++ "(" ++ commaJoined (Expr.sqls values) ++ ")")
  else return other ("EXECUTE " ++ name.sql)

/-- A statement that is prepared, after `PREPARE`. -/
def prepareRest : Parser Statement := do
  let name ← ident
  let types ← do
    if ← symbol .openParen then
      let types ← commaSeparated (dataType grammar)
      expectSymbol .closeParen
      pure ("(" ++ commaJoined (types.map DataType.sql) ++ ") ")
    else pure ""
  expectKeyword "AS"
  return other ("PREPARE " ++ name.sql ++ " " ++ types ++ "AS " ++ (← grammar.statement).sql)

/-- A setting of the engine after `PRAGMA`. -/
def pragmaRest : Parser Statement := do
  let name ← qualifiedName
  if ← symbol .openParen then
    let value ← numberValue
    expectSymbol .closeParen
    return other ("PRAGMA " ++ QualifiedName.sql name ++ "(" ++ value.sql ++ ")")
  else if ← symbol .equal then
    return other ("PRAGMA " ++ QualifiedName.sql name ++ " = " ++ (← numberValue).sql)
  else return other ("PRAGMA " ++ QualifiedName.sql name)

/-- A remark on an object after `COMMENT`. -/
def commentRest : Parser Statement := do
  let missing ← ifExists
  expectKeyword "ON"
  let found ← next
  let kind ← match found.bind (·.token.keyword?) with
    | some "COLUMN" => pure "COLUMN"
    | some "TABLE" => pure "TABLE"
    | _ => expectedAt "comment object_type" found
  let name ← qualifiedName
  expectKeyword "IS"
  let text ← if ← keyword "NULL" then pure "NULL" else pure ("'" ++ (← literalText) ++ "'")
  return other
    ("COMMENT " ++ missing ++ "ON " ++ kind ++ " " ++ QualifiedName.sql name ++ " IS " ++ text)

end Rules

end Querent.Sql.Parser

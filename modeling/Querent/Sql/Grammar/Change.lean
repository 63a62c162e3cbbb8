import Querent.Sql.Grammar.Selection

/-!
# Changes of rows

The rules for statements that insert, change, delete and merge rows.  Each rule yields the canonical
text of its statement.
-/

namespace Querent.Sql.Parser

/-- The canonical text of a list of names in parentheses, or nothing for an empty list. -/
def columnsText (columns : List Ident) : String :=
  onlyIf (!columns.isEmpty) ("(" ++ identList columns ++ ")")

/-- Names of columns in parentheses; in one dialect they may be none. -/
def insertColumns : Parser (List Ident) := do
  if ← symbol .openParen then
    if ← dialectIn [.mySql] <&&> symbol .closeParen then return []
    else
      let names ← commaSeparated ident
      expectSymbol .closeParen
      return names
  else return []

section Rules

variable (grammar : Grammar)

/-- A column that is given a value. -/
def assignment : Parser String := do
  let names ← wordsToEqual
  expectSymbol .equal
  return QualifiedName.sql names ++ " = " ++ (← grammar.expr).sql

/-- Several columns that are given values. -/
def assignments : Parser String := do
  return commaJoined (← commaSeparated (assignment grammar))

/-- A condition after `WHERE`, with its introduction. -/
def whereClause : Parser String := do
  return Expr.clause " WHERE " (← after "WHERE" grammar.expr)

/-- The columns of the changed rows that are returned, with their introduction. -/
def returningClause : Parser String := do
  let items ← listAfter ["RETURNING"] (commaSeparated (selectItem grammar))
  return listClause " RETURNING " (SelectItem.sqls items)

/-- Expressions in parentheses after `PARTITION`, with their introduction. -/
def partitionClause : Parser (Option String) := do
  if ← keyword "PARTITION" then
    let items ← parenthesized (commaSeparated grammar.expr)
    return some ("PARTITION (" ++ commaJoined (Expr.sqls items) ++ ")")
  else return none

/-- What happens to a row that is there already, with its introduction. -/
def conflictClause : Parser String := do
  if ← keyword "ON" then
    if ← keyword "CONFLICT" then
      let target ← do
        if ← keywords ["ON", "CONSTRAINT"] then
          pure (" ON CONSTRAINT " ++ QualifiedName.sql (← qualifiedName))
        else if (← peekAt 0) == some (.symbol .openParen) then pure (columnsText (← columns))
        else pure ""
      expectKeyword "DO"
      let action ← do
        if ← keyword "NOTHING" then pure "DO NOTHING"
        else
          expectKeyword "UPDATE"
          expectKeyword "SET"
          let changes ← assignments grammar
          pure ("DO UPDATE SET " ++ changes ++ (← whereClause grammar))
      return "  ON CONFLICT" ++ target ++ " " ++ action
    else
      expectKeywords ["DUPLICATE", "KEY", "UPDATE"]
      return " ON DUPLICATE KEY UPDATE " ++ (← assignments grammar)
  else return ""

/-- What an insertion does with a row that is there already, where it is said at its start. -/
def insertAlternative : Parser (Option String) := do
  if (← dialect) = .sqlite then
    if ← keywords ["OR", "REPLACE"] then return some "REPLACE"
    else if ← keywords ["OR", "ROLLBACK"] then return some "ROLLBACK"
    else if ← keywords ["OR", "ABORT"] then return some "ABORT"
    else if ← keywords ["OR", "FAIL"] then return some "FAIL"
    else if ← keywords ["OR", "IGNORE"] then return some "IGNORE"
    else if ← keyword "REPLACE" then return some "REPLACE"
    else return none
  else return none

/-- The formats that a file may be stored in. -/
def fileFormats : List Keyword :=
  ["TEXTFILE", "SEQUENCEFILE", "ORC", "PARQUET", "AVRO", "RCFILE", "JSONFILE"]

/-- The format of a file. -/
def fileFormat : Parser Keyword := do
  let found ← next
  match found.bind (·.token.keyword?) with
  | some word => if fileFormats.contains word then return word else expectedAt "fileformat" found
  | none => expectedAt "fileformat" found

/-- A query whose rows are written to a directory, after `DIRECTORY`. -/
def directoryRest (start : String) : Parser Statement := do
  let path ← literalText
  let format ← if ← keywords ["STORED", "AS"] then some <$> fileFormat else pure none
  let query ← grammar.query
  return .command .other
    (start ++ " DIRECTORY '" ++ path ++ "'" ++ optionClause " STORED AS " format ++ " " ++ query.sql)

/-- An insertion into a table after the words that introduce it. -/
def tableInsertion (start alternative : String) : Parser Statement := do
  let tableKeyword ← keyword "TABLE"
  let name ← qualifiedName
  let columns ← insertColumns
  let partition ← partitionClause grammar
  let columnsAfter ← optionalColumns
  let query ← grammar.query
  let conflict ← conflictClause grammar
  let returning ← returningClause grammar
  let opening :=
    if alternative.isEmpty then start ++ onlyIf tableKeyword " TABLE"
    else "INSERT OR " ++ alternative ++ " INTO"
  let part (text : String) : String := onlyIf (!text.isEmpty) (text ++ " ")
  return .command .insert
    (opening ++ " " ++ QualifiedName.sql name ++ " " ++ part (columnsText columns) ++
      part (partition.getD "") ++ part (columnsText columnsAfter) ++ query.sql ++ conflict ++
      returning)

/-- An insertion after its first word. -/
def insertRest : Parser Statement := do
  let alternative ← insertAlternative
  let ignore ← dialectIn [.mySql, .generic] <&&> keyword "IGNORE"
  let action ← oneOf ["INTO", "OVERWRITE"]
  let isLocal ← keyword "LOCAL"
  let overwrites := action == some "OVERWRITE"
  if ← keyword "DIRECTORY" then
    directoryRest grammar
      ("INSERT" ++ onlyIf overwrites " OVERWRITE" ++ onlyIf isLocal " LOCAL")
  else
    tableInsertion grammar
      ("INSERT" ++ onlyIf ignore " IGNORE" ++ onlyIf overwrites " OVERWRITE" ++
        onlyIf (action == some "INTO") " INTO")
      (alternative.getD "")

/-- A change of rows after `UPDATE`. -/
def updateRest : Parser Statement := do
  let table ← grammar.source
  expectKeyword "SET"
  let changes ← assignments grammar
  let source ← do
    if ← keyword "FROM" <&&> dialectIn [.generic, .postgres, .duckDb] then
      some <$> grammar.source
    else pure none
  let condition ← whereClause grammar
  let returning ← returningClause grammar
  return .command .update
    ("UPDATE " ++ table.sql ++ " SET " ++ changes ++ optionClause " FROM " (source.map Source.sql) ++
      condition ++ returning)

/-- A deletion of rows after `DELETE`. -/
def deleteRest : Parser Statement := do
  let tables ← do
    if ← keyword "FROM" then pure []
    else
      let tables ← commaSeparated qualifiedName
      expectKeyword "FROM"
      pure tables
  let sources ← commaSeparated grammar.source
  let others ← listAfter ["USING"] (commaSeparated grammar.source)
  let condition ← whereClause grammar
  let returning ← returningClause grammar
  let order ← optionalOrder grammar
  let limit ← if ← keyword "LIMIT" then limitValue grammar else pure none
  return .command .delete
    ("DELETE " ++ onlyIf (!tables.isEmpty) (commaJoined (tables.map QualifiedName.sql) ++ " ") ++
      "FROM " ++ commaJoined (Source.sqls sources) ++
      listClause " USING " (Source.sqls others) ++ condition ++ returning ++
      listClause " ORDER BY " (OrderItem.sqls order) ++ Expr.clause " LIMIT " limit)

/-- A case of a merge, up to the end of the statement. -/
def mergeCase : Parser (Option String) := do
  match tokenOf (← peek) with
  | none | some (.symbol .semicolon) => return none
  | some _ =>
    expectKeyword "WHEN"
    let unmatched ← keyword "NOT"
    expectKeyword "MATCHED"
    let condition ← after "AND" grammar.expr
    expectKeyword "THEN"
    let start := "WHEN " ++ onlyIf unmatched "NOT " ++ "MATCHED" ++
      Expr.clause " AND " condition ++ " THEN "
    match ← oneOf ["UPDATE", "INSERT", "DELETE"] with
    | some "UPDATE" =>
      if unmatched then throw (.refused "UPDATE in NOT MATCHED merge clause" none)
      else
        expectKeyword "SET"
        return some (start ++ "UPDATE SET " ++ (← assignments grammar))
    | some "DELETE" =>
      if unmatched then throw (.refused "DELETE in NOT MATCHED merge clause" none)
      else return some (start ++ "DELETE")
    | some _ =>
      if unmatched then
        let columns ← insertColumns
        expectKeyword "VALUES"
        let values ← valuesRest grammar
        return some (start ++ "INSERT (" ++ identList columns ++ ") " ++ values.sql)
      else throw (.refused "INSERT in MATCHED merge clause" none)
    | none => throw .mergeActionExpected

/-- A merge of rows into a table after `MERGE`. -/
def mergeRest : Parser Statement := do
  let into ← keyword "INTO"
  let table ← grammar.relation
  expectKeyword "USING"
  let source ← grammar.relation
  expectKeyword "ON"
  let condition ← grammar.expr
  let cases ← many (mergeCase grammar)
  return .command .other
    ("MERGE" ++ onlyIf into " INTO" ++ " " ++ table.sql ++ " USING " ++ source.sql ++ " ON " ++
      condition.sql ++ " " ++ " ".intercalate cases)

/-- The canonical text of an insertion or a change inside a query. -/
def changeText (rule : Parser Statement) : Parser String :=
  Statement.sql <$> rule

end Rules

end Querent.Sql.Parser

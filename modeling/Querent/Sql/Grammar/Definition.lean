import Querent.Sql.Grammar.Change

/-!
# Definitions of tables and other objects

The rules for statements that create, change and drop the objects of a database.  Each rule yields
the canonical text of its statement.
-/

namespace Querent.Sql.Parser

/-- How a definition is introduced after `CREATE`. -/
structure Creation where
  orReplace : Bool
  orAlter : Bool
  /-- Whether the object is visible globally or locally, if that is said. -/
  scope : Option Keyword
  transient : Bool
  temporary : Bool

/-- A part of a table: a column or a constraint. -/
inductive TablePart where
  | column (text : String)
  | constraint (text : String)

/-- The text of a part that starts with a blank, or nothing. -/
def blankBefore (text : String) : String :=
  onlyIf (!text.isEmpty) (" " ++ text)

/-- Whether an object is left alone when it is there already. -/
def ifNotExists : Parser String := do
  return onlyIf (← keywords ["IF", "NOT", "EXISTS"]) "IF NOT EXISTS "

/-- Whether an object may be missing. -/
def ifExists : Parser String := do
  return onlyIf (← keywords ["IF", "EXISTS"]) "IF EXISTS "

/-- An option with its value. -/
def optionValue : Parser String := do
  let name ← ident
  expectSymbol .equal
  return name.sql ++ " = " ++ (← literal).sql

/-- Options in parentheses after a keyword, with their introduction. -/
def optionsClause (word : Keyword) : Parser String := do
  if ← keyword word then
    let options ← parenthesized (commaSeparated optionValue)
    return " " ++ word ++ " (" ++ commaJoined options ++ ")"
  else return ""

/-- What happens to a row when the row that it refers to changes. -/
def referentialAction : Parser String := do
  if ← keyword "RESTRICT" then return "RESTRICT"
  else if ← keyword "CASCADE" then return "CASCADE"
  else if ← keywords ["SET", "NULL"] then return "SET NULL"
  else if ← keywords ["NO", "ACTION"] then return "NO ACTION"
  else if ← keywords ["SET", "DEFAULT"] then return "SET DEFAULT"
  else expected "one of RESTRICT, CASCADE, SET NULL, NO ACTION or SET DEFAULT"

/-- At most so many actions on changes of the row that is referred to. -/
def referentialActionsUpTo : Nat → Option String → Option String → Parser String
  | 0, _, _ => return ""
  | n + 1, onDelete, onUpdate => do
    if ← pure onDelete.isNone <&&> keywords ["ON", "DELETE"] then
      referentialActionsUpTo n (some (← referentialAction)) onUpdate
    else if ← pure onUpdate.isNone <&&> keywords ["ON", "UPDATE"] then
      referentialActionsUpTo n onDelete (some (← referentialAction))
    else
      return optionClause " ON DELETE " onDelete ++ optionClause " ON UPDATE " onUpdate

/-- The actions on changes of the row that is referred to. -/
def referentialActions : Parser String :=
  referentialActionsUpTo 3 none none

/-- The next token must be a text in single quotes. -/
def singleQuoted (what : String) : Parser String := do
  let found ← next
  match tokenOf found with
  | some (.quoted .single value) => return value
  | _ => expectedAt what found

/-- The next token must be a word. -/
def bareWord : Parser String := do
  let found ← next
  match tokenOf found with
  | some (.word w) => return w.text
  | _ => expectedAt "identifier" found

section Rules

variable (grammar : Grammar)

/-- At most so many options of a sequence. -/
def sequenceOptions : Parser String := do
  let number : Parser String := Literal.sql <$> numberValue
  let increment ← do
    if ← keyword "INCREMENT" then
      if ← keyword "BY" then pure (" INCREMENT BY " ++ (← number))
      else pure (" INCREMENT " ++ (← number))
    else pure ""
  let bounded (word : Keyword) : Parser String := do
    if ← keyword word then return " " ++ word ++ " " ++ (← number)
    else if ← keywords ["NO", word] then return " NO " ++ word
    else return ""
  let least ← bounded "MINVALUE"
  let most ← bounded "MAXVALUE"
  let start ← do
    if ← keyword "START" then
      if ← keyword "WITH" then pure (" START WITH " ++ (← number))
      else pure (" START " ++ (← number))
    else pure ""
  let cache ← if ← keyword "CACHE" then pure (" CACHE " ++ (← number)) else pure ""
  let cycle ← do
    if ← keywords ["NO", "CYCLE"] then pure " NO CYCLE"
    else if ← keyword "CYCLE" then pure " CYCLE"
    else pure ""
  return increment ++ least ++ most ++ start ++ cache ++ cycle

/-- A value that is computed, after `GENERATED`. -/
def generatedRest : Parser (Option String) := do
  let identity (words : String) : Parser (Option String) := do
    if ← symbol .openParen then
      let options ← sequenceOptions
      expectSymbol .closeParen
      return some ("GENERATED " ++ words ++ " AS IDENTITY" ++
        onlyIf (!options.isEmpty) (" (" ++ options ++ " )"))
    else return some ("GENERATED " ++ words ++ " AS IDENTITY")
  if ← keywords ["ALWAYS", "AS", "IDENTITY"] then identity "ALWAYS"
  else if ← keywords ["BY", "DEFAULT", "AS", "IDENTITY"] then identity "BY DEFAULT"
  else if ← keywords ["ALWAYS", "AS"] then
    if ← symbol .openParen then
      let value ← grammar.expr
      expectSymbol .closeParen
      let stored ← keyword "STORED"
      return some ("GENERATED ALWAYS AS (" ++ value.sql ++ ")" ++ onlyIf stored " STORED")
    else return none
  else return none

/-- A property of a column. -/
def columnOption : Parser (Option String) := do
  if ← keywords ["CHARACTER", "SET"] then
    return some ("CHARACTER SET " ++ QualifiedName.sql (← qualifiedName))
  else if ← keywords ["NOT", "NULL"] then return some "NOT NULL"
  else if ← keyword "COMMENT" then
    return some ("COMMENT " ++ quoteText '\'' (← singleQuoted "string"))
  else if ← keyword "NULL" then return some "NULL"
  else if ← keyword "DEFAULT" then return some ("DEFAULT " ++ (← grammar.expr).sql)
  else if ← keywords ["PRIMARY", "KEY"] then return some "PRIMARY KEY"
  else if ← keyword "UNIQUE" then return some "UNIQUE"
  else if ← keyword "REFERENCES" then
    let table ← qualifiedName
    let referred ← optionalColumns
    return some ("REFERENCES " ++ QualifiedName.sql table ++ blankBefore (columnsText referred) ++
      (← referentialActions))
  else if ← keyword "CHECK" then
    return some ("CHECK (" ++ (← parenthesized grammar.expr).sql ++ ")")
  else if ← keyword "AUTO_INCREMENT" <&&> dialectIn [.mySql, .generic] then
    return some "AUTO_INCREMENT"
  else if ← keyword "AUTOINCREMENT" <&&> dialectIn [.sqlite, .generic] then
    return some "AUTOINCREMENT"
  else if ← keywords ["ON", "UPDATE"] <&&> dialectIn [.mySql, .generic] then
    return some ("ON UPDATE " ++ (← grammar.expr).sql)
  else if ← keyword "GENERATED" then generatedRest grammar
  else return none

/-- A property of a column, which may have a name. -/
def namedColumnOption : Parser (Option String) := do
  if ← keyword "CONSTRAINT" then
    let name ← ident
    match ← columnOption grammar with
    | some option => return some ("CONSTRAINT " ++ name.sql ++ " " ++ option)
    | none => expected "constraint details after CONSTRAINT <name>"
  else columnOption grammar

/-- A column with its type and properties. -/
def columnDefinition : Parser String := do
  let name ← ident
  let type ← dataType grammar
  let collation ← after "COLLATE" qualifiedName
  let options ← many (namedColumnOption grammar)
  return name.sql ++ " " ++ type.sql ++
    optionClause " COLLATE " (collation.map QualifiedName.sql) ++
    "".intercalate (options.map (" " ++ ·))

/-- A constraint of a table. -/
def tableConstraint : Parser (Option String) := do
  let start ← get
  let name ← after "CONSTRAINT" ident
  let found ← next
  let named (name : Option Ident) : String :=
    optionClause "" (name.map fun name => "CONSTRAINT " ++ name.sql ++ " ")
  let unique (text : String) : Parser (Option String) := do
    discard (keyword "KEY")
    let inner ← attempt ident
    return some (named (inner <|> name) ++ text ++ " " ++ columnsText (← columns))
  match found.bind (·.token.keyword?) with
  | some "PRIMARY" => unique "PRIMARY KEY"
  | some "UNIQUE" => unique "UNIQUE"
  | some "FOREIGN" =>
    expectKeyword "KEY"
    let own ← columns
    expectKeyword "REFERENCES"
    let table ← qualifiedName
    let referred ← columns
    return some (named name ++ "FOREIGN KEY " ++ columnsText own ++ " REFERENCES " ++
      QualifiedName.sql table ++ columnsText referred ++ (← referentialActions))
  | some "CHECK" =>
    return some (named name ++ "CHECK (" ++ (← parenthesized grammar.expr).sql ++ ")")
  | word =>
    let isIndex := word == some "INDEX" || word == some "KEY"
    if isIndex && ((← dialect) = .mySql || (← dialect) = .generic) then
      let indexName ← if ← atKeyword "USING" then pure none else attempt ident
      let method ← if ← keyword "USING" then some <$> expectOneOf ["BTREE", "HASH"] else pure none
      return some (word.getD "" ++ optionClause " " (indexName.map Ident.sql) ++
        optionClause " USING " method ++ " " ++ columnsText (← columns))
    else if name.isSome then expectedAt "PRIMARY, UNIQUE, FOREIGN, or CHECK" found
    else
      set start
      return none

/-- At most so many parts of a table up to the closing parenthesis. -/
def tablePartsUpTo : Nat → Parser (List TablePart)
  | 0 => return []
  | n + 1 => do
    let part ← match ← tableConstraint grammar with
      | some text => pure (TablePart.constraint text)
      | none => do
        match tokenOf (← peek) with
        | some (.word _) => TablePart.column <$> columnDefinition grammar
        | _ => expected "column name or constraint definition"
    let comma ← symbol .comma
    if ← symbol .closeParen then return [part]
    else if comma then return part :: (← tablePartsUpTo n)
    else expected "',' or ')' after column definition"

/-- The parts of a table in parentheses: columns first, then constraints. -/
def tableParts : Parser (List String) := do
  if ← symbol .openParen then
    if ← symbol .closeParen then return []
    else
      let parts ← tablePartsUpTo grammar ((← get).length + 1)
      let columns := parts.filterMap fun
        | .column text => some text
        | .constraint _ => none
      let constraints := parts.filterMap fun
        | .column _ => none
        | .constraint text => some text
      return columns ++ constraints
  else return []

/-- The columns that a table is sorted by, with their introduction. -/
def tableOrder : Parser String := do
  if ← keywords ["ORDER", "BY"] then
    if ← symbol .openParen then
      if ← symbol .closeParen then return " ORDER BY ()"
      else
        let names ← commaSeparated ident
        expectSymbol .closeParen
        return " ORDER BY (" ++ identList names ++ ")"
    else return " ORDER BY (" ++ (← ident).sql ++ ")"
  else return ""

/-- What happens to the rows of a table at the end of a transaction, with its introduction. -/
def onCommit : Parser String := do
  if ← keywords ["ON", "COMMIT", "DELETE", "ROWS"] then return " ON COMMIT DELETE ROWS"
  else if ← keywords ["ON", "COMMIT", "PRESERVE", "ROWS"] then return " ON COMMIT PRESERVE ROWS"
  else if ← keywords ["ON", "COMMIT", "DROP"] then return " ON COMMIT DROP"
  else return ""

/-- A word after an equals sign, with its introduction. -/
def wordAfterEqual (introduction : String) : Parser String := do
  expectSymbol .equal
  return introduction ++ (← bareWord)

/-- A table after `CREATE TABLE`. -/
def createTable (creation : Creation) : Parser String := do
  let ifNotExists ← ifNotExists
  let name ← qualifiedName
  let like ← if ← keyword "LIKE" <||> keyword "ILIKE" then attempt qualifiedName else pure none
  let clone ← if ← keyword "CLONE" then attempt qualifiedName else pure none
  let parts ← tableParts grammar
  let withoutRowId ← keywords ["WITHOUT", "ROWID"]
  let options ← optionsClause "WITH"
  let engine ← if ← keyword "ENGINE" then wordAfterEqual " ENGINE=" else pure ""
  let comment ← do
    if ← keyword "COMMENT" then
      discard (symbol .equal)
      pure (" COMMENT '" ++ (← singleQuoted "comment") ++ "'")
    else pure ""
  let order ← tableOrder
  let query ← after "AS" grammar.query
  let charset ← do
    if ← keywords ["DEFAULT", "CHARSET"] then wordAfterEqual " DEFAULT CHARSET=" else pure ""
  let collation ← if ← keyword "COLLATE" then wordAfterEqual " COLLATE=" else pure ""
  let commit ← onCommit
  let strict ← keyword "STRICT"
  let bare := query.isNone && like.isNone && clone.isNone
  return "CREATE " ++ onlyIf creation.orReplace "OR REPLACE " ++
    optionClause "" (creation.scope.map (· ++ " ")) ++
    onlyIf creation.temporary "TEMPORARY " ++ onlyIf creation.transient "TRANSIENT " ++
    "TABLE " ++ ifNotExists ++ QualifiedName.sql name ++
    (if parts.isEmpty then onlyIf bare " ()" else " (" ++ commaJoined parts ++ ")") ++
    onlyIf withoutRowId " WITHOUT ROWID" ++ optionClause " LIKE " (like.map QualifiedName.sql) ++
    optionClause " CLONE " (clone.map QualifiedName.sql) ++ options ++ engine ++ comment ++
    order ++ optionClause " AS " (query.map Query.sql) ++ charset ++ collation ++ commit ++
    onlyIf strict " STRICT"

/-- A view, after the words before `MATERIALIZED` or `VIEW`. -/
def createView (creation : Creation) : Parser String := do
  let materialized ← keyword "MATERIALIZED"
  expectKeyword "VIEW"
  let existing ← if ← dialectIn [.sqlite, .generic] then ifNotExists else pure ""
  let name ← qualifiedName
  let columns ← optionalColumns
  let options ← optionsClause "WITH"
  let cluster ← do
    if ← keyword "CLUSTER" then
      expectKeyword "BY"
      optionalColumns
    else pure []
  expectKeyword "AS"
  let query ← grammar.query
  let unbound ← dialectIn [.generic] <&&> keywords ["WITH", "NO", "SCHEMA", "BINDING"]
  return "CREATE " ++ onlyIf creation.orReplace "OR REPLACE " ++
    onlyIf materialized "MATERIALIZED " ++ onlyIf creation.temporary "TEMPORARY " ++ "VIEW " ++
    existing ++ QualifiedName.sql name ++ options ++ blankBefore (columnsText columns) ++
    optionClause " CLUSTER BY " (if cluster.isEmpty then none else some (columnsText cluster)) ++
    " AS " ++ query.sql ++ onlyIf unbound " WITH NO SCHEMA BINDING"

/-- An argument of a function with its mode, name, type and default. -/
def functionArgument : Parser String := do
  let mode ← oneOf ["IN", "OUT", "INOUT"]
  let first ← dataType grammar
  let (name, type) ← match first with
    | .custom (name :: _) _ => pure (some name, ← dataType grammar)
    | type => pure (none, type)
  let default ← do
    if ← keyword "DEFAULT" <||> symbol .equal then some <$> grammar.expr else pure none
  return optionClause "" (mode.map (· ++ " ")) ++
    optionClause "" (name.map fun name => name.sql ++ " ") ++ type.sql ++
    Expr.clause " = " default

/-- Items in parentheses, with the parentheses; without items there is no text. -/
def itemsInParens (item : Parser String) : Parser String := do
  expectSymbol .openParen
  if ← symbol .closeParen then return ""
  else
    let items ← commaSeparated item
    expectSymbol .closeParen
    return "(" ++ commaJoined items ++ ")"

/-- An argument of a macro with its default. -/
def macroArgument : Parser String := do
  let name ← ident
  if ← symbol .assign <||> symbol .fatArrow then
    return name.sql ++ " := " ++ (← grammar.expr).sql
  else return name.sql

/-- A macro after its introduction. -/
def createMacro (creation : Creation) : Parser String := do
  let name ← qualifiedName
  let items ← itemsInParens (macroArgument grammar)
  expectKeyword "AS"
  let body ← do
    if ← keyword "TABLE" then pure ("TABLE " ++ (← grammar.query).sql)
    else pure (← grammar.expr).sql
  return "CREATE " ++ onlyIf creation.orReplace "OR REPLACE " ++
    onlyIf creation.temporary "TEMPORARY " ++ "MACRO " ++ QualifiedName.sql name ++ items ++
    " AS " ++ body

/-- What is known of a function: its language, its behaviour and its body. -/
structure FunctionBody where
  language : String
  behaviour : String
  definition : String
  result : String

/-- At most so many parts of the body of a function, in any order. -/
def functionBodyUpTo : Nat → FunctionBody → Parser String
  | 0, body => return body.language ++ body.behaviour ++ body.definition ++ body.result
  | n + 1, body => do
    if ← keyword "AS" then
      let found ← peek
      let text ← match tokenOf found, ← dialect with
        | some (.dollarQuoted tag value), .postgres | some (.dollarQuoted tag value), .generic => do
          discard next
          pure (dollarQuotedText tag value)
        | _, _ => quoteText '\'' <$> literalText
      functionBodyUpTo n { body with definition := " AS " ++ text }
    else if ← keyword "LANGUAGE" then
      functionBodyUpTo n { body with language := " LANGUAGE " ++ (← ident).sql }
    else
      match ← oneOf ["IMMUTABLE", "STABLE", "VOLATILE"] with
      | some word => functionBodyUpTo n { body with behaviour := " " ++ word }
      | none =>
        if ← keyword "RETURN" then
          functionBodyUpTo n { body with result := " RETURN " ++ (← grammar.expr).sql }
        else return body.language ++ body.behaviour ++ body.definition ++ body.result

/-- A function after its introduction. -/
def createFunction (creation : Creation) : Parser String := do
  let name ← qualifiedName
  let items ← itemsInParens (functionArgument grammar)
  let result ← after "RETURNS" (dataType grammar)
  let body ← functionBodyUpTo grammar ((← get).length + 1) ⟨"", "", "", ""⟩
  return "CREATE " ++ onlyIf creation.orReplace "OR REPLACE " ++
    onlyIf creation.temporary "TEMPORARY " ++ "FUNCTION " ++ QualifiedName.sql name ++ items ++
    optionClause " RETURNS " (result.map DataType.sql) ++ body

/-- An index after `INDEX`. -/
def createIndex (unique : Bool) : Parser String := do
  let concurrently ← keyword "CONCURRENTLY"
  let existing ← ifNotExists
  let name ← do
    if ← pure existing.isEmpty <&&> keyword "ON" then pure none
    else
      let name ← qualifiedName
      expectKeyword "ON"
      pure (some name)
  let table ← qualifiedName
  let method ← after "USING" ident
  let keys ← parenthesized (commaSeparated (orderItem grammar))
  let included ← if ← keyword "INCLUDE" then identsInParens else pure []
  let nulls ← do
    if ← keyword "NULLS" then
      let negated ← keyword "NOT"
      expectKeyword "DISTINCT"
      pure (" NULLS " ++ onlyIf negated "NOT " ++ "DISTINCT")
    else pure ""
  let condition ← whereClause grammar
  return "CREATE " ++ onlyIf unique "UNIQUE " ++ "INDEX " ++
    onlyIf concurrently "CONCURRENTLY " ++ existing ++
    optionClause "" (name.map fun name => QualifiedName.sql name ++ " ") ++ "ON " ++
    QualifiedName.sql table ++ optionClause " USING " (method.map fun name => name.sql ++ " ") ++
    "(" ++ ",".intercalate (OrderItem.sqls keys) ++ ")" ++
    onlyIf (!included.isEmpty) (" INCLUDE (" ++ ",".intercalate (included.map Ident.sql) ++ ")") ++
    nulls ++ condition

/-- A schema after `SCHEMA`. -/
def createSchema : Parser String := do
  let existing ← ifNotExists
  let name ← do
    if ← keyword "AUTHORIZATION" then pure ("AUTHORIZATION " ++ (← ident).sql)
    else
      let name ← qualifiedName
      let owner ← after "AUTHORIZATION" ident
      pure (QualifiedName.sql name ++ optionClause " AUTHORIZATION " (owner.map Ident.sql))
  return "CREATE SCHEMA " ++ existing ++ name

/-- At most so many places where a database is kept. -/
def databaseLocationsUpTo : Nat → Option String → Option String → Parser String
  | 0, _, _ => return ""
  | n + 1, location, managed => do
    if ← keyword "LOCATION" then databaseLocationsUpTo n (some (← literalText)) managed
    else if ← keyword "MANAGEDLOCATION" then databaseLocationsUpTo n location (some (← literalText))
    else
      return optionClause "" (location.map fun text => " LOCATION '" ++ text ++ "'") ++
        optionClause "" (managed.map fun text => " MANAGEDLOCATION '" ++ text ++ "'")

/-- A database after `DATABASE`. -/
def createDatabase : Parser String := do
  let existing ← ifNotExists
  let name ← qualifiedName
  return "CREATE DATABASE " ++ existing ++ QualifiedName.sql name ++
    (← databaseLocationsUpTo ((← get).length + 1) none none)

/-- A table of a module after `VIRTUAL`. -/
def createVirtualTable : Parser String := do
  expectKeyword "TABLE"
  let existing ← ifNotExists
  let name ← qualifiedName
  expectKeyword "USING"
  let moduleName ← ident
  return "CREATE VIRTUAL TABLE " ++ existing ++ QualifiedName.sql name ++ " USING " ++
    moduleName.sql ++ blankBefore (columnsText (← optionalColumns))

/-- The abilities of a role and the words that refuse them, in canonical order. -/
def roleAbilities : List (Keyword × Keyword) :=
  [("SUPERUSER", "NOSUPERUSER"), ("CREATEDB", "NOCREATEDB"), ("CREATEROLE", "NOCREATEROLE"),
    ("INHERIT", "NOINHERIT"), ("LOGIN", "NOLOGIN"), ("REPLICATION", "NOREPLICATION"),
    ("BYPASSRLS", "NOBYPASSRLS")]

/-- An ability that a role is given or refused. -/
def roleAbility : Parser (Option Keyword) :=
  oneOf (roleAbilities.flatMap fun (granted, refused) => [granted, refused])

/-- Roles after `ROLE`. -/
def createRole : Parser String := do
  let existing ← ifNotExists
  let names ← commaSeparated qualifiedName
  discard (keyword "WITH")
  let abilities ← if (← dialect) = .postgres then many roleAbility else pure []
  let said := roleAbilities.filterMap fun (granted, refused) =>
    if abilities.contains granted then some (" " ++ granted)
    else if abilities.contains refused then some (" " ++ refused)
    else none
  return "CREATE ROLE " ++ existing ++ commaJoined (names.map QualifiedName.sql) ++
    "".intercalate said

/-- A sequence after `SEQUENCE`. -/
def createSequence (creation : Creation) : Parser String := do
  let existing ← ifNotExists
  let name ← qualifiedName
  let type ← after "AS" (dataType grammar)
  let options ← sequenceOptions
  let owner ← do
    if ← keywords ["OWNED", "BY"] then
      if ← keyword "NONE" then pure " OWNED BY NONE"
      else pure (" OWNED BY " ++ QualifiedName.sql (← qualifiedName))
    else pure ""
  return "CREATE " ++ onlyIf creation.temporary "TEMPORARY " ++ "SEQUENCE " ++ existing ++
    QualifiedName.sql name ++ optionClause " AS " (type.map DataType.sql) ++ options ++ owner

/-- At most so many attributes of a composite type up to the closing parenthesis. -/
def attributesUpTo : Nat → Parser (List String)
  | 0 => return []
  | n + 1 => do
    let name ← ident
    let type ← dataType grammar
    let collation ← after "COLLATE" qualifiedName
    let text := name.sql ++ " " ++ type.sql ++
      optionClause " COLLATE " (collation.map QualifiedName.sql)
    let comma ← symbol .comma
    if ← symbol .closeParen then return [text]
    else if comma then return text :: (← attributesUpTo n)
    else expected "',' or ')' after attribute definition"

/-- A composite type after `TYPE`. -/
def createType : Parser String := do
  let name ← qualifiedName
  expectKeyword "AS"
  let attributes ← do
    if ← symbol .openParen then
      if ← symbol .closeParen then pure [] else attributesUpTo grammar ((← get).length + 1)
    else pure []
  return "CREATE TYPE " ++ QualifiedName.sql name ++ " AS (" ++ commaJoined attributes ++ ")"

/-- An extension after `EXTENSION`. -/
def createExtension : Parser String := do
  let existing ← ifNotExists
  let name ← ident
  let details ← do
    if ← keyword "WITH" then
      let schema ← after "SCHEMA" ident
      let version ← after "VERSION" ident
      let cascade ← keyword "CASCADE"
      let text := optionClause " SCHEMA " (schema.map Ident.sql) ++
        optionClause " VERSION " (version.map Ident.sql) ++ onlyIf cascade " CASCADE"
      pure (onlyIf (!text.isEmpty) (" WITH" ++ text))
    else pure ""
  return "CREATE EXTENSION " ++ existing ++ name.sql ++ details

/-- A definition after `CREATE`. -/
def createRest : Parser Statement := do
  let orReplace ← keywords ["OR", "REPLACE"]
  let orAlter ← keywords ["OR", "ALTER"]
  let isLocal ← keyword "LOCAL"
  let isGlobal ← keyword "GLOBAL"
  let transient ← keyword "TRANSIENT"
  let temporary := (← oneOf ["TEMP", "TEMPORARY"]).isSome
  let scope := if isGlobal then some "GLOBAL" else if isLocal then some "LOCAL" else none
  let creation : Creation := ⟨orReplace, orAlter, scope, transient, temporary⟩
  let start ← get
  let ddl (rule : Parser String) : Parser Statement := Statement.command .ddl <$> rule
  let other (rule : Parser String) : Parser Statement := Statement.command .other <$> rule
  let unknown : Parser Statement := do
    set start
    expected "an object type after CREATE"
  if ← keyword "TABLE" then ddl (createTable grammar creation)
  else if ← atKeyword "MATERIALIZED" <||> atKeyword "VIEW" then ddl (createView grammar creation)
  else if ← keyword "FUNCTION" then
    match ← dialect with
    | .postgres => other (createFunction grammar creation)
    | .duckDb => other (createMacro grammar creation)
    | _ => unknown
  else if ← keyword "MACRO" then
    if ← dialectIn [.duckDb, .generic] then other (createMacro grammar creation) else unknown
  else if orReplace then
    expected "[EXTERNAL] TABLE or [MATERIALIZED] VIEW or FUNCTION after CREATE OR REPLACE"
  else if ← dialectIn [.postgres, .generic] <&&> keyword "EXTENSION" then other createExtension
  else if ← keyword "INDEX" then other (createIndex grammar false)
  else if ← keywords ["UNIQUE", "INDEX"] then other (createIndex grammar true)
  else if ← keyword "VIRTUAL" then other createVirtualTable
  else if ← keyword "SCHEMA" then ddl createSchema
  else if ← keyword "DATABASE" then ddl createDatabase
  else if ← keyword "ROLE" then other createRole
  else if ← keyword "SEQUENCE" then other (createSequence grammar creation)
  else if ← keyword "TYPE" then other (createType grammar)
  else expected "an object type after CREATE"

/-- A function that is dropped, with its arguments. -/
def droppedFunction : Parser String := do
  let name ← qualifiedName
  let arguments ← do
    if (← peekAt 0) == some (.symbol .openParen) then itemsInParens (functionArgument grammar)
    else pure ""
  return QualifiedName.sql name ++ arguments

/-- Functions that are dropped, after `FUNCTION`. -/
def dropFunction : Parser Statement := do
  let missing ← keywords ["IF", "EXISTS"]
  let functions ← commaSeparated (droppedFunction grammar)
  let option ← oneOf ["CASCADE", "RESTRICT"]
  return .command .other
    ("DROP FUNCTION" ++ onlyIf missing " IF EXISTS" ++ " " ++ commaJoined functions ++
      optionClause " " option)

/-- Objects that are dropped, after `DROP`. -/
def dropRest : Parser Statement := do
  let temporary ← dialectIn [.mySql, .generic] <&&> keyword "TEMPORARY"
  match ← oneOf ["TABLE", "VIEW", "INDEX", "ROLE", "SCHEMA", "SEQUENCE", "STAGE", "FUNCTION"] with
  | none => expected "TABLE, VIEW, INDEX, ROLE, SCHEMA, FUNCTION, STAGE or SEQUENCE after DROP"
  | some "FUNCTION" => dropFunction grammar
  | some kind =>
    let missing ← keywords ["IF", "EXISTS"]
    let names ← commaSeparated qualifiedName
    let place ← peek
    let cascade ← keyword "CASCADE"
    let restrict ← keyword "RESTRICT"
    let purge ← keyword "PURGE"
    if cascade && restrict then
      throw (.refused "Cannot specify both CASCADE and RESTRICT in DROP" place)
    else if kind == "ROLE" && (cascade || restrict || purge) then
      throw (.refused "Cannot specify CASCADE, RESTRICT, or PURGE in DROP ROLE" place)
    else
      return .command .ddl
        ("DROP " ++ onlyIf temporary "TEMPORARY " ++ kind ++ onlyIf missing " IF EXISTS" ++ " " ++
          commaJoined (names.map QualifiedName.sql) ++ onlyIf cascade " CASCADE" ++
          onlyIf restrict " RESTRICT" ++ onlyIf purge " PURGE")

/-- A change of a column after `ALTER COLUMN` and its name. -/
def columnChange : Parser String := do
  let typed : Parser String := do
    let type ← dataType grammar
    let value ← do
      if ← dialectIn [.postgres] <&&> keyword "USING" then some <$> grammar.expr else pure none
    return "SET DATA TYPE " ++ type.sql ++ Expr.clause " USING " value
  if ← keywords ["SET", "NOT", "NULL"] then return "SET NOT NULL"
  else if ← keywords ["DROP", "NOT", "NULL"] then return "DROP NOT NULL"
  else if ← keywords ["SET", "DEFAULT"] then return "SET DEFAULT " ++ (← grammar.expr).sql
  else if ← keywords ["DROP", "DEFAULT"] then return "DROP DEFAULT"
  else if ← keywords ["SET", "DATA", "TYPE"] then typed
  else if ← dialectIn [.postgres] <&&> keyword "TYPE" then typed
  else expected "SET/DROP NOT NULL, SET DEFAULT, SET DATA TYPE after ALTER COLUMN"

/-- A part of a table that is added, after `ADD`. -/
def addition : Parser String := do
  match ← tableConstraint grammar with
  | some text => return "ADD " ++ text
  | none =>
    let existing ← keywords ["IF", "NOT", "EXISTS"]
    let columnKeyword ← keyword "COLUMN"
    let existing ← do
      if ← dialectIn [.postgres, .duckDb, .generic] then
        pure (if ← keywords ["IF", "NOT", "EXISTS"] then true else existing)
      else pure false
    return "ADD" ++ onlyIf columnKeyword " COLUMN" ++ onlyIf existing " IF NOT EXISTS" ++ " " ++
      (← columnDefinition grammar)

/-- A part of a table that is dropped, after `DROP`. -/
def removal : Parser String := do
  let rest (words : String) : Parser String := do
    let missing ← ifExists
    let name ← ident
    let cascade ← keyword "CASCADE"
    return words ++ missing ++ name.sql ++ onlyIf cascade " CASCADE"
  if ← keyword "CONSTRAINT" then rest "DROP CONSTRAINT "
  else if ← dialectIn [.mySql, .generic] <&&> keywords ["PRIMARY", "KEY"] then
    return "DROP PRIMARY KEY"
  else
    discard (keyword "COLUMN")
    rest "DROP COLUMN "

/-- A change of a name after `RENAME`. -/
def renameRest : Parser String := do
  let rest (words : String) : Parser String := do
    let old ← ident
    expectKeyword "TO"
    return words ++ old.sql ++ " TO " ++ (← ident).sql
  if ← dialectIn [.postgres] <&&> keyword "CONSTRAINT" then rest "RENAME CONSTRAINT "
  else if ← keyword "TO" then return "RENAME TO " ++ QualifiedName.sql (← qualifiedName)
  else
    discard (keyword "COLUMN")
    rest "RENAME COLUMN "

/-- A rule or trigger of a table that is switched on or off. -/
def switchRest (word : Keyword) : Parser String := do
  let named (words : String) : Parser String := do
    return word ++ words ++ (← ident).sql
  if ← keywords ["ROW", "LEVEL", "SECURITY"] then return word ++ " ROW LEVEL SECURITY"
  else if ← keyword "RULE" then named " RULE "
  else if ← keyword "TRIGGER" then named " TRIGGER "
  else if ← pure (word == "ENABLE") <&&> keywords ["ALWAYS", "RULE"] then named " ALWAYS RULE "
  else if ← pure (word == "ENABLE") <&&> keywords ["ALWAYS", "TRIGGER"] then
    named " ALWAYS TRIGGER "
  else if ← pure (word == "ENABLE") <&&> keywords ["REPLICA", "RULE"] then named " REPLICA RULE "
  else if ← pure (word == "ENABLE") <&&> keywords ["REPLICA", "TRIGGER"] then
    named " REPLICA TRIGGER "
  else if word == "ENABLE" then
    expected "ALWAYS, REPLICA, ROW LEVEL SECURITY, RULE, or TRIGGER after ENABLE"
  else expected "ROW LEVEL SECURITY, RULE, or TRIGGER after DISABLE"

/-- A change of a table. -/
def tableChange : Parser String := do
  if ← keyword "ADD" then addition grammar
  else if ← keyword "RENAME" then renameRest
  else if ← keyword "DISABLE" then switchRest "DISABLE"
  else if ← keyword "ENABLE" then switchRest "ENABLE"
  else if ← keyword "DROP" then removal
  else if ← keyword "CHANGE" then
    discard (keyword "COLUMN")
    let old ← ident
    let name ← ident
    let type ← dataType grammar
    let options ← many (columnOption grammar)
    return "CHANGE COLUMN " ++ old.sql ++ " " ++ name.sql ++ " " ++ type.sql ++
      onlyIf (!options.isEmpty) (" " ++ " ".intercalate options)
  else if ← keyword "ALTER" then
    discard (keyword "COLUMN")
    let name ← ident
    return "ALTER COLUMN " ++ name.sql ++ " " ++ (← columnChange grammar)
  else if ← keyword "SWAP" then
    expectKeyword "WITH"
    return "SWAP WITH " ++ QualifiedName.sql (← qualifiedName)
  else expected "ADD, RENAME, PARTITION, SWAP or DROP after ALTER TABLE"

/-- A change of a role after `ALTER ROLE`. -/
def alterRole : Parser String := do
  if (← dialect) = .postgres then
    let name ← ident
    if ← keyword "RENAME" then
      if ← keyword "TO" then return "ALTER ROLE " ++ name.sql ++ " RENAME TO " ++ (← ident).sql
      else expected "TO after RENAME"
    else
      discard (keyword "WITH")
      match ← many roleAbility with
      | [] => expected "option"
      | abilities => return "ALTER ROLE " ++ name.sql ++ " WITH " ++ " ".intercalate abilities
  else
    throw (.refused "ALTER ROLE is only support for PostgreSqlDialect and MsSqlDialect" none)

/-- A change of an object after `ALTER`. -/
def alterRest : Parser Statement := do
  match ← expectOneOf ["VIEW", "TABLE", "INDEX", "ROLE"] with
  | "VIEW" =>
    let name ← qualifiedName
    let columns ← optionalColumns
    let options ← optionsClause "WITH"
    expectKeyword "AS"
    let query ← grammar.query
    return .command .other
      ("ALTER VIEW " ++ QualifiedName.sql name ++ options ++ blankBefore (columnsText columns) ++
        " AS " ++ query.sql)
  | "TABLE" =>
    let missing ← ifExists
    let only ← keyword "ONLY"
    let name ← qualifiedName
    let changes ← commaSeparated (tableChange grammar)
    return .command .ddl
      ("ALTER TABLE " ++ missing ++ onlyIf only "ONLY " ++ QualifiedName.sql name ++ " " ++
        commaJoined changes)
  | "INDEX" =>
    let name ← qualifiedName
    if ← keyword "RENAME" then
      if ← keyword "TO" then
        return .command .other
          ("ALTER INDEX " ++ QualifiedName.sql name ++ " RENAME TO " ++
            QualifiedName.sql (← qualifiedName))
      else expected "TO after RENAME"
    else expected "RENAME after ALTER INDEX"
  | _ => Statement.command .other <$> alterRole

end Rules

end Querent.Sql.Parser

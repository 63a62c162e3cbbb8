import Querent.Sql.Grammar.Command

/-!
# Statements

The rule for statements, and the circle of all rules.  `grammarOfDepth` closes the circle by the
number of rules that may be entered inside each other: every rule that it hands out is one level
less deep.  A text of `n` tokens never needs more than `depthFor n` levels, so `parseStatements`,
which starts with as many, behaves as if there were no limit but the budget for nesting.
-/

namespace Querent.Sql

namespace Parser

section Rules

variable (grammar : Grammar)

/-- A statement after a keyword, if the keyword starts one. -/
def statementAfter (word : Keyword) : Option (Parser Statement) :=
  match word with
  | "KILL" => some killRest
  | "DESCRIBE" => some (explainRest grammar "DESCRIBE")
  | "EXPLAIN" => some (explainRest grammar "EXPLAIN")
  | "ANALYZE" => some (analyzeRest grammar)
  | "TRUNCATE" => some (truncateRest grammar)
  | "ATTACH" => some (attachRest grammar)
  | "MSCK" => some repairRest
  | "CREATE" => some (createRest grammar)
  | "CACHE" => some (cacheRest grammar)
  | "DROP" => some (dropRest grammar)
  | "DISCARD" => some discardRest
  | "DECLARE" => some (declareRest grammar)
  | "FETCH" => some fetchStatement
  | "DELETE" => some (deleteRest grammar)
  | "INSERT" => some (insertRest grammar)
  | "UNCACHE" => some uncacheRest
  | "UPDATE" => some (updateRest grammar)
  | "ALTER" => some (alterRest grammar)
  | "COPY" => some (copyRest grammar)
  | "CLOSE" => some closeRest
  | "SET" => some (setRest grammar)
  | "SHOW" => some (showRest grammar)
  | "USE" => some do return other ("USE " ++ (← ident).sql)
  | "GRANT" => some grantRest
  | "REVOKE" => some revokeRest
  | "START" => some do
    expectKeyword "TRANSACTION"
    return other ("START TRANSACTION" ++ (← transactionModes))
  | "BEGIN" => some do
    discard (oneOf ["TRANSACTION", "WORK"])
    return other ("BEGIN TRANSACTION" ++ (← transactionModes))
  | "SAVEPOINT" => some do return other ("SAVEPOINT " ++ (← ident).sql)
  | "COMMIT" => some do return other ("COMMIT" ++ (← chained))
  | "ROLLBACK" => some do return other ("ROLLBACK" ++ (← chained))
  | "ASSERT" => some (assertRest grammar)
  | "DEALLOCATE" => some deallocateRest
  | "EXECUTE" => some (executeRest grammar)
  | "PREPARE" => some (prepareRest grammar)
  | "MERGE" => some (mergeRest grammar)
  | "PRAGMA" => some pragmaRest
  | _ => none

/-- Whether the next token starts a query. -/
def startsQuery (found : Option Located) : Bool :=
  match tokenOf found with
  | some (.symbol .openParen) => true
  | some token => ["SELECT", "WITH", "VALUES"].any token.isKeyword
  | none => false

/-- A statement. -/
def statementRule : Parser Statement :=
  nested do
    if ← pure ((← dialect) == .sqlite) <&&> atKeyword "REPLACE" then insertRest grammar
    else if ← pure ((← dialect) == .postgres) <&&> keyword "COMMENT" then commentRest
    else
      let found ← peek
      if startsQuery found then Statement.query <$> grammar.query
      else
        discard next
        match (found.bind (·.token.keyword?)).bind (statementAfter grammar) with
        | some rest => rest
        | none => expectedAt "an SQL statement" found

end Rules

end Parser

/-- The rules of the grammar, entered inside each other no deeper than a given number of times. -/
def grammarOfDepth : Nat → Grammar
  | 0 => ⟨throw .tooDeep, fun _ => throw .tooDeep, throw .tooDeep, throw .tooDeep,
      fun _ => throw .tooDeep, throw .tooDeep, throw .tooDeep, throw .tooDeep⟩
  | depth + 1 => {
      expr := fun context tokens =>
        Parser.nested (Parser.operandRule (grammarOfDepth depth) 0) context tokens
      operand := fun least context tokens =>
        Parser.operandRule (grammarOfDepth depth) least context tokens
      type := fun context tokens => Parser.typeRule (grammarOfDepth depth) context tokens
      query := fun context tokens =>
        Parser.queryRule (grammarOfDepth depth)
          (Parser.changeText (Parser.insertRest (grammarOfDepth depth)))
          (Parser.changeText (Parser.updateRest (grammarOfDepth depth))) context tokens
      body := fun least context tokens =>
        Parser.bodyRule (grammarOfDepth depth) least context tokens
      relation := fun context tokens => Parser.relationRule (grammarOfDepth depth) context tokens
      source := fun context tokens => Parser.sourceRule (grammarOfDepth depth) context tokens
      statement := fun context tokens =>
        Parser.statementRule (grammarOfDepth depth) context tokens }

/-- How deeply the rules can be entered inside each other in a text of so many tokens. -/
def depthFor (tokens : Nat) : Nat :=
  8 * (tokens + 8)

/-- How many queries, expressions and statements may be nested inside each other. -/
def nestingLimit : Nat := 50

/-- At most so many statements up to the end or the word `END`. -/
def statementsUpTo (grammar : Grammar) : Nat → Bool → Parser (List Statement)
  | 0, _ => return []
  | n + 1, delimited => do
    if ← Parser.symbol .semicolon then statementsUpTo grammar n true
    else
      match ← Parser.peek with
      | none => return []
      | some located =>
        if located.token.isKeyword "END" then return []
        else if delimited then
          let statement ← grammar.statement
          return statement :: (← statementsUpTo grammar n false)
        else Parser.expected "end of statement"

/-- Why a text has no statements to offer. -/
inductive ParseError where
  | syntactic (error : SyntaxError)
  /-- The text holds no statement at all. -/
  | noStatement
  deriving DecidableEq, Repr

/-- The wording of an error. -/
def ParseError.message : ParseError → String
  | syntactic error => error.message
  | noStatement => "no SQL statement found"

/-- The statements of a text in a dialect, of which there is at least one. -/
def parseStatements (dialect : Dialect) (text : String) : Except ParseError (List Statement) := do
  let tokens ← (locatedTokens dialect text).mapError (.syntactic ∘ .lexical)
  let grammar := grammarOfDepth (depthFor tokens.length)
  let context : Context := ⟨dialect, nestingLimit⟩
  let parser := statementsUpTo grammar (2 * tokens.length + 2) true
  let (statements, _) ← (parser context tokens).mapError .syntactic
  if statements.isEmpty then throw .noStatement else return statements

end Querent.Sql

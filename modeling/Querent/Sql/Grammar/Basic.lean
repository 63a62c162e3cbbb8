import Querent.Sql.Lexer
import Querent.Sql.Printer

/-!
# Parsers

A parser reads a value from the start of a list of tokens and returns the tokens after it, or says
why it cannot.  It knows the dialect and a *budget*: the number of queries, expressions and
statements that may still be opened inside each other.  The budget bounds how deeply a query may be
nested, and a query that exceeds it is refused.

The rules of the grammar refer to each other in circles.  Each rule is therefore a parser that takes
the rules it refers to as a `Grammar`, and the circle is closed in one place.
-/

namespace Querent.Sql

/-- Why a text is not a query. -/
inductive SyntaxError where
  | lexical (error : LexError)
  /-- Something else was expected in the place of a token or of the end. -/
  | expected (what : String) (found : Option Located)
  | noInfixRule (found : Located)
  | tooDeep
  | allAndDistinct (found : Option Located)
  | joinExpected (side : Keyword)
  | mergeActionExpected
  /-- A number that does not fit where it stands. -/
  | badNumber (digits : String) (reason : String) (found : Option Located)
  /-- A fault with its wording, at a place if one is known. -/
  | refused (wording : String) (place : Option Located)
  deriving DecidableEq, Repr

/-- The place of a token at the end of an error message; the end of the text has none. -/
def placeText (found : Option Located) : String :=
  match found with
  | some located => located.position.text
  | none => ""

/-- How a token is shown in full when no rule applies to it. -/
def Token.debugText : Token → String
  | .word w =>
    let quote := match w.quote with
      | some c => "Some('" ++ String.singleton c ++ "')"
      | none => "None"
    "Word(Word \x7b value: \"" ++ w.text ++ "\", quote_style: " ++ quote ++ ", keyword: " ++
      w.keyword.getD "NoKeyword" ++ " \x7d)"
  | .symbol .sharp => "Sharp"
  | .symbol .shiftLeft => "ShiftLeft"
  | .symbol .shiftRight => "ShiftRight"
  | .symbol .doubleAmpersand => "Overlap"
  | .symbol .integerDivide => "DuckIntDiv"
  | token => token.text

namespace SyntaxError

/-- The wording of a fault, less the words that introduce every fault. -/
def detail : SyntaxError → String
  | lexical error => error.message
  | expected what found =>
    let token := match found with
      | some located => located.token.text
      | none => "EOF"
    "Expected " ++ what ++ ", found: " ++ token ++ placeText found
  | noInfixRule found => "No infix parser for token " ++ found.token.debugText ++
      found.position.text
  | tooDeep => "recursion limit exceeded"
  | allAndDistinct found => "Cannot specify both ALL and DISTINCT" ++ placeText found
  | joinExpected side => "expected OUTER, SEMI, ANTI or JOIN after " ++ side
  | mergeActionExpected => "expected UPDATE, DELETE or INSERT in merge clause"
  | badNumber digits reason found =>
    "Could not parse '" ++ digits ++ "' as u64: " ++ reason ++ placeText found
  | refused wording place => wording ++ placeText place

/-- The wording of a fault. -/
def message (error : SyntaxError) : String :=
  "sql parser error: " ++ error.detail

end SyntaxError

/-- What a parser knows besides the tokens. -/
structure Context where
  dialect : Dialect
  budget : Nat

/-- A parser of values. -/
abbrev Parser := ReaderT Context (StateT (List Located) (Except SyntaxError))

namespace Parser

/-- The dialect of the query. -/
def dialect : Parser Dialect := do
  return (← read).dialect

/-- Whether the dialect is one of several. -/
def dialectIn (dialects : List Dialect) : Parser Bool := do
  return dialects.contains (← dialect)

/-- The next token, which stays where it is. -/
def peek : Parser (Option Located) := do
  return (← get).head?

/-- The token that is a number of places ahead. -/
def peekAt (n : Nat) : Parser (Option Token) := do
  return ((← get)[n]?).map (·.token)

/-- Takes the next token. -/
def next : Parser (Option Located) := do
  let tokens ← get
  set tokens.tail
  return tokens.head?

/-- Fails at a token. -/
def expectedAt {α : Type} (what : String) (found : Option Located) : Parser α :=
  throw (.expected what found)

/-- Fails at the next token. -/
def expected {α : Type} (what : String) : Parser α := do
  expectedAt what (← peek)

/-- Fails with a wording at the next token. -/
def refuse {α : Type} (wording : String) : Parser α := do
  throw (.refused wording (← peek))

/-- Opens one more level of nesting. -/
def nested {α : Type} (parser : Parser α) : Parser α := fun context tokens =>
  match context.budget with
  | 0 => .error .tooDeep
  | budget + 1 => parser { context with budget := budget } tokens

/-- Tries a parser; when it fails, nothing is read and its fault is forgotten. -/
def attempt {α : Type} (parser : Parser α) : Parser (Option α) := fun context tokens =>
  match parser context tokens with
  | .ok (value, rest) => .ok (some value, rest)
  | .error _ => .ok (none, tokens)

/-- The next token, if it is a symbol of the given kind, is read. -/
def symbol (mark : Symbol) : Parser Bool := do
  match ← get with
  | ⟨.symbol found, _⟩ :: rest =>
    if found = mark then
      set rest
      return true
    else return false
  | _ => return false

/-- Reads a symbol that must be there. -/
def expectSymbol (mark : Symbol) : Parser Unit := do
  unless ← symbol mark do
    expected mark.text

/-- Whether the next token spells a keyword, which stays where it is. -/
def atKeyword (keyword : Keyword) : Parser Bool := do
  return ((← peek).map (·.token.isKeyword keyword)).getD false

/-- The next token, if it spells the keyword, is read. -/
def keyword (keyword : Keyword) : Parser Bool := do
  match ← get with
  | located :: rest =>
    if located.token.isKeyword keyword then
      set rest
      return true
    else return false
  | [] => return false

/-- The tokens after a sequence of keywords, if the tokens start with it. -/
def afterKeywords : List Keyword → List Located → Option (List Located)
  | [], tokens => some tokens
  | _ :: _, [] => none
  | word :: words, located :: rest =>
    if located.token.isKeyword word then afterKeywords words rest else none

/-- A sequence of keywords is read as a whole or not at all. -/
def keywords (words : List Keyword) : Parser Bool := do
  match afterKeywords words (← get) with
  | some rest =>
    set rest
    return true
  | none => return false

/-- The next token, if it spells one of several keywords, is read. -/
def oneOf (words : List Keyword) : Parser (Option Keyword) := do
  match (← peek).bind (·.token.keyword?) with
  | some word =>
    if words.contains word then
      discard next
      return some word
    else return none
  | none => return none

/-- Reads a keyword that must be there. -/
def expectKeyword (word : Keyword) : Parser Unit := do
  unless ← keyword word do
    expected word

/-- Reads keywords that must be there. -/
def expectKeywords (words : List Keyword) : Parser Unit :=
  words.forM expectKeyword

/-- Reads one of several keywords. -/
def expectOneOf (words : List Keyword) : Parser Keyword := do
  match ← oneOf words with
  | some word => return word
  | none => expected ("one of " ++ " or ".intercalate words)

/-- At most so many items with commas between them. -/
def commaSeparatedUpTo {α : Type} (item : Parser α) : Nat → Parser (List α)
  | 0 => return []
  | n + 1 => do
    let first ← item
    if ← symbol .comma then
      return first :: (← commaSeparatedUpTo item n)
    else return [first]

/-- One or more items with commas between them. -/
def commaSeparated {α : Type} (item : Parser α) : Parser (List α) := do
  commaSeparatedUpTo item ((← get).length + 1)

/-- At most so many items, up to the first that is absent. -/
def manyUpTo {α : Type} (item : Parser (Option α)) : Nat → Parser (List α)
  | 0 => return []
  | n + 1 => do
    match ← item with
    | some value => return value :: (← manyUpTo item n)
    | none => return []

/-- Items up to the first that is absent; each takes at least one token. -/
def many {α : Type} (item : Parser (Option α)) : Parser (List α) := do
  manyUpTo item ((← get).length + 1)

/-- An item in parentheses. -/
def parenthesized {α : Type} (item : Parser α) : Parser α := do
  expectSymbol .openParen
  let value ← item
  expectSymbol .closeParen
  return value

/-- A value that is present when a keyword introduces it. -/
def after {α : Type} (word : Keyword) (item : Parser α) : Parser (Option α) := do
  if ← keyword word then return some (← item) else return none

/-- Items that are present when keywords introduce them. -/
def listAfter {α : Type} (words : List Keyword) (items : Parser (List α)) : Parser (List α) := do
  if ← keywords words then items else return []

end Parser

/-- What a statement does. -/
inductive StatementKind where
  | select
  | insert
  | update
  | delete
  | ddl
  | other
  deriving DecidableEq, Repr

/-- The name of a kind of statements. -/
def StatementKind.name : StatementKind → String
  | select => "select"
  | insert => "insert"
  | update => "update"
  | delete => "delete"
  | ddl => "ddl"
  | other => "other"

/-- What a statement does that is no query; it never selects. -/
inductive CommandKind where
  | insert
  | update
  | delete
  | ddl
  | other
  deriving DecidableEq, Repr

/-- What a command does, as a kind of statements. -/
def CommandKind.statementKind : CommandKind → StatementKind
  | insert => .insert
  | update => .update
  | delete => .delete
  | ddl => .ddl
  | other => .other

/-- No command is a selection. -/
theorem CommandKind.statementKind_ne_select (kind : CommandKind) :
    kind.statementKind ≠ .select := by
  cases kind <;> decide

/-- A statement: a query, or a command of a known kind in its canonical text. -/
inductive Statement where
  | query (query : Query)
  | command (kind : CommandKind) (text : String)

/-- The canonical text of a statement. -/
def Statement.sql : Statement → String
  | query q => q.sql
  | command _ text => text

/-- The rules that other rules refer to. -/
structure Grammar where
  /-- An expression, which opens a level of nesting. -/
  expr : Parser Expr
  /-- An expression whose operators bind more tightly than a given precedence. -/
  operand : Nat → Parser Expr
  /-- A type, and whether the bracket that closes the type around it was read with it. -/
  type : Parser (DataType × Bool)
  query : Parser Query
  /-- A body whose operators bind more tightly than a given precedence. -/
  body : Nat → Parser Body
  relation : Parser Relation
  source : Parser Source
  statement : Parser Statement

end Querent.Sql

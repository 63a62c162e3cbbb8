import Querent.Sql.Token

/-!
# The tree of a query

What a query says, free of how it was written: expressions, selections, the sources they read from
and the queries they make up.  Expressions hold queries and queries hold expressions, so the types
below are defined together.  Names keep their letter case and their quotes; numbers and texts keep
their spelling.  What is not a query is kept in its canonical text only, since no more is ever
asked about it than its kind.
-/

namespace Querent.Sql

/-- A name, with the character that opened its quotes if it was quoted. -/
structure Ident where
  text : String
  quote : Option Char
  deriving DecidableEq, Repr

/-- The name that a word stands for. -/
def Word.ident (word : Word) : Ident :=
  ⟨word.text, word.quote⟩

/-- A name of a table, function or type, qualified from the outside in. -/
abbrev QualifiedName := List Ident

/-- A value written out in a query. -/
inductive Literal where
  | number (digits : String) (long : Bool)
  | quoted (form : QuotedForm) (value : String)
  | dollarQuoted (tag : Option String) (value : String)
  | boolean (value : Bool)
  | null
  | placeholder (name : String)
  /-- A bare word in the place of a value, such as a key of a document. -/
  | bare (text : String)
  deriving DecidableEq, Repr

/-- How a moment or a time of day relates to time zones. -/
inductive Zone where
  | unstated
  | withZone
  | withoutZone
  /-- The short form that ends in `TZ`. -/
  | short
  deriving DecidableEq, Repr

/-- A type of values. -/
inductive DataType where
  /-- A type known by its name alone. -/
  | plain (name : String)
  | sized (name : String) (size : Option Nat)
  | integer (name : String) (width : Option Nat) (unsigned : Bool)
  | characters (name : String) (length : Option Nat) (unit : Option String)
  | decimal (name : String) (precision scale : Option Nat)
  | temporal (name : String) (precision : Option Nat) (zone : Zone)
  | members (name : String) (values : List String)
  | custom (name : QualifiedName) (modifiers : List String)
  /-- An array type written with brackets after the type of its elements. -/
  | arrayOf (element : DataType)
  /-- An array type written with angle brackets. -/
  | angledArray (element : DataType)
  | record (fields : List (Option Ident × DataType))

/-- An operator before or after a single operand. -/
inductive UnaryOperator where
  | plus
  | minus
  | not
  | squareRoot
  | cubeRoot
  | leadingFactorial
  | trailingFactorial
  | magnitude
  | bitwiseNot
  deriving DecidableEq, Repr

/-- An operator between two operands. -/
inductive BinaryOperator where
  /-- An operator that is written as a symbol. -/
  | symbol (symbol : Symbol)
  /-- An operator that is written as a keyword. -/
  | keyword (keyword : Keyword)
  /-- An operator named by its schema and its own name. -/
  | named (parts : List String)
  deriving DecidableEq, Repr

/-- A test that follows its operand. -/
inductive Test where
  | isNull
  | isTrue
  | isFalse
  | isUnknown
  deriving DecidableEq, Repr

/-- A comparison of a text with a pattern. -/
inductive Match where
  | like
  | ilike
  | similar
  | regexp
  | rlike
  deriving DecidableEq, Repr

/-- A conversion to another type. -/
inductive Cast where
  | cast
  | tryCast
  | safeCast
  deriving DecidableEq, Repr

/-- The end of a text from which characters are removed. -/
inductive TrimSide where
  | both
  | leading
  | trailing
  deriving DecidableEq, Repr

/-- What an aggregate or window function does with nulls. -/
inductive NullTreatment where
  | respect
  | ignore
  deriving DecidableEq, Repr

/-- A way of grouping by several sets of expressions. -/
inductive Grouping where
  | sets
  | cube
  | rollup
  deriving DecidableEq, Repr

/-- The units in which a window frame is measured. -/
inductive FrameUnits where
  | rows
  | range
  | groups
  deriving DecidableEq, Repr

/-- An operator between two queries. -/
inductive SetOperator where
  | union
  | except
  | intersect
  deriving DecidableEq, Repr

/-- What a set operator does with equal rows and how it pairs columns. -/
inductive SetQuantifier where
  | unstated
  | all
  | distinct
  | byName
  | allByName
  | distinctByName
  deriving DecidableEq, Repr

/-- The word after the number of rows that are skipped. -/
inductive OffsetUnit where
  | unstated
  | row
  | rows
  deriving DecidableEq, Repr

/-- A limit on the rows of a query in the wording of the standard. -/
structure Fetch where
  quantity : Option Literal
  percent : Bool
  withTies : Bool
  deriving DecidableEq, Repr

/-- A lock on the rows that a query reads. -/
structure Lock where
  exclusive : Bool
  table : Option QualifiedName
  /-- What happens to a row that is locked already. -/
  waiting : Option String
  deriving DecidableEq, Repr

/-- Whether equal rows of a selection are kept. -/
inductive Distinctness where
  | all
  | distinct
  /-- One row is kept for each value of some expressions. -/
  | on
  deriving DecidableEq, Repr

/-- What a list aggregate does when its text grows too long. -/
inductive Overflow where
  | unstated
  | error
  | truncate (withCount : Bool)
  deriving DecidableEq, Repr

/-- A table that takes the rows of a query. -/
structure Target where
  temporary : Bool
  unlogged : Bool
  tableKeyword : Bool
  name : QualifiedName
  deriving DecidableEq, Repr

/-- A second name of a table, with names for its columns. -/
structure TableAlias where
  name : Ident
  columns : List Ident
  deriving DecidableEq, Repr

/-- The columns that a wildcard leaves out. -/
inductive Exclusion where
  | one (column : Ident)
  | many (columns : List Ident)
  deriving DecidableEq, Repr

/-- The columns that a wildcard renames. -/
inductive Renaming where
  | one (column label : Ident)
  | many (columns : List (Ident × Ident))
  deriving DecidableEq, Repr

/-- How the rows of two tables are paired. -/
inductive JoinKind where
  | inner
  | left
  | right
  | full
  | leftSemi
  | rightSemi
  | leftAnti
  | rightAnti
  | cross
  | crossApply
  | outerApply
  deriving DecidableEq, Repr

mutual

/-- An expression. -/
inductive Expr where
  | name (name : Ident)
  | compound (parts : List Ident)
  | literal (value : Literal)
  /-- A text with the name of its character set before it. -/
  | introduced (characterSet : String) (value : Literal)
  /-- A text with the name of its type before it. -/
  | typed (type : DataType) (value : String)
  | nested (inner : Expr)
  | tuple (items : List Expr)
  | array (named : Bool) (items : List Expr)
  | unary (operator : UnaryOperator) (operand : Expr)
  | binary (left : Expr) (operator : BinaryOperator) (right : Expr)
  /-- A comparison with any or with all values of a list. -/
  | quantified (left : Expr) (operator : BinaryOperator) (all : Bool) (right : Expr)
  | test (operand : Expr) (negated : Bool) (test : Test)
  | distinctFrom (left : Expr) (negated : Bool) (right : Expr)
  | inList (operand : Expr) (negated : Bool) (items : List Expr)
  | inQuery (operand : Expr) (negated : Bool) (query : Query)
  | inUnnest (operand : Expr) (negated : Bool) (list : Expr)
  | between (operand : Expr) (negated : Bool) (low high : Expr)
  | matching (operand : Expr) (negated : Bool) (kind : Match) (pattern : Expr)
      (escape : Option Char)
  | cast (kind : Cast) (operand : Expr) (type : DataType)
      (format : Option (Literal × Option Literal))
  | extract (field : Keyword) (operand : Expr)
  /-- Rounding up or down, to a unit of time if one is given. -/
  | round (up : Bool) (operand : Expr) (field : Option Keyword)
  | position (needle haystack : Expr)
  | substring (operand : Expr) (start length : Option Expr)
  | overlay (operand replacement start : Expr) (length : Option Expr)
  | trim (side : Option TrimSide) (removed : Option Expr) (operand : Expr)
      (characters : List Expr)
  | collate (operand : Expr) (collation : QualifiedName)
  | case (operand : Option Expr) (conditions results : List Expr) (otherwise : Option Expr)
  | exists (negated : Bool) (query : Query)
  | query (query : Query)
  | arrayQuery (query : Query)
  /-- A call of a function; a bare call has no parentheses. -/
  | call (name : QualifiedName) (bare distinct : Bool) (arguments : List Expr)
      (order : List OrderItem) (filter : Option Expr) (nulls : Option NullTreatment)
      (window : Option Window)
  /-- An argument that is given by name. -/
  | argument (name : Ident) (value : Expr)
  | filtered (operand condition : Expr)
  | arrayAggregate (distinct : Bool) (operand : Expr) (order : List OrderItem)
      (limit : Option Expr)
  | listAggregate (distinct : Bool) (operand : Expr) (separator : Option Expr)
      (overflow : Overflow) (filler : Option Expr) (order : List OrderItem)
  | interval (value : Expr) (leading : Option Keyword) (leadingPrecision : Option Nat)
      (last : Option Keyword) (fractionPrecision : Option Nat)
  /-- Grouping by several sets, each of them a tuple. -/
  | grouping (kind : Grouping) (sets : List Expr)
  /-- An element of an array, by one index for each dimension. -/
  | index (operand : Expr) (indexes : List Expr)
  /-- An element of a map, by one key for each level. -/
  | lookup (operand : Expr) (keys : List Expr)
  /-- A field of a composite value. -/
  | field (operand : Expr) (name : Ident)
  | atTimeZone (operand : Expr) (zone : String)
  | searchText (columns : List Ident) (value : Literal) (mode : Option String)
  | record (fields : List (Option Ident × DataType)) (values : List Expr)
  /-- A value with a name of its own, after the word `AS` or without it. -/
  | labelled (operand : Expr) (asKeyword : Bool) (name : Ident)
  | wildcard
  | qualifiedWildcard (name : QualifiedName)

/-- An expression to sort by. -/
structure OrderItem where
  key : Expr
  ascending : Option Bool
  nullsFirst : Option Bool

/-- The rows that a window function sees. -/
inductive Window where
  | named (name : Ident)
  | spec (partition : List Expr) (order : List OrderItem) (units : Option FrameUnits)
      (start finish : Bound)

/-- An end of the part of a window that moves with the current row. -/
inductive Bound where
  | unstated
  | currentRow
  | preceding (distance : Option Expr)
  | following (distance : Option Expr)

/-- A query: a body, the tables it defines beforehand, and the order and number of its rows. -/
structure Query where
  recursive : Bool
  definitions : List Definition
  body : Body
  order : List OrderItem
  limit : Option Expr
  limitBy : List Expr
  offset : Option Expr
  offsetUnit : OffsetUnit
  fetch : Option Fetch
  locks : List Lock

/-- A table that is defined by a query for the use of another. -/
structure Definition where
  label : TableAlias
  query : Query
  origin : Option Ident

/-- What the rows of a query come from. -/
inductive Body where
  | select (select : Select)
  | query (query : Query)
  | operation (operator : SetOperator) (quantifier : SetQuantifier) (left right : Body)
  /-- Rows that are written out, each of them a tuple. -/
  | values (rowKeyword : Bool) (rows : List Expr)
  | table (schema : Option String) (name : String)
  /-- A statement that inserts rows, in its canonical text. -/
  | insert (text : String)
  /-- A statement that changes rows, in its canonical text. -/
  | update (text : String)

/-- A selection of columns and rows. -/
structure Select where
  distinctness : Distinctness
  distinctOn : List Expr
  top : Option Expr
  topPercent : Bool
  topTies : Bool
  items : List SelectItem
  target : Option Target
  sources : List Source
  views : List Source
  condition : Option Expr
  groupAll : Bool
  groupBy : List Expr
  clusterBy : List Expr
  distributeBy : List Expr
  sortBy : List Expr
  having : Option Expr
  windowNames : List Ident
  windows : List Window
  qualify : Option Expr

/-- A selected column, or several of them. -/
inductive SelectItem where
  | expression (value : Expr)
  | aliased (value : Expr) (label : Ident)
  /-- All columns, or all columns of a table, less some and with some renamed or replaced. -/
  | wildcard (table : Option QualifiedName) (exclude : Option Exclusion) (except : List Ident)
      (rename : Option Renaming) (replace : List Expr)

/-- A table and the tables that are joined to it. -/
structure Source where
  relation : Relation
  joins : List Join

/-- A table that is joined to those before it, and which rows the join pairs. -/
structure Join where
  kind : JoinKind
  relation : Relation
  natural : Bool
  condition : Option Expr
  columns : List Ident

/-- Something that rows are read from. -/
inductive Relation where
  | table (name : QualifiedName) (partitions : List Ident) (called : Bool) (arguments : List Expr)
      (label : Option TableAlias) (hints : List Expr)
  | derived (lateral : Bool) (query : Query) (label : Option TableAlias)
  | function (name : QualifiedName) (arguments : List Expr) (label : Option TableAlias)
  | expression (value : Expr) (label : Option TableAlias)
  | unnest (arrays : List Expr) (label : Option TableAlias) (withOffset : Bool)
      (offsetAlias : Option Ident)
  | nested (source : Source) (label : Option TableAlias)
  | pivot (relation : Relation) (aggregate : Expr) (column : List Ident) (values : List Literal)
      (label : Option TableAlias)
  | unpivot (relation : Relation) (value name : Ident) (columns : List Ident)
      (label : Option TableAlias)
  /-- The values that a function yields for each row. -/
  | view (outer : Bool) (value : Expr) (name : QualifiedName) (columns : List Ident)

end

/-- A query that consists of a body alone. -/
def Query.ofBody (body : Body) : Query where
  recursive := false
  definitions := []
  body := body
  order := []
  limit := none
  limitBy := []
  offset := none
  offsetUnit := .unstated
  fetch := none
  locks := []

/-- Whether the rows of a selection are grouped. -/
def Select.isGrouped (select : Select) : Bool :=
  select.groupAll || !select.groupBy.isEmpty

/-- The leftmost selection of a body, which is the one that names its columns. -/
def Body.leftmost? : Body → Option Select
  | .select selection => some selection
  | .query ⟨_, _, body, _, _, _, _, _, _, _⟩ => body.leftmost?
  | .operation _ _ left _ => left.leftmost?
  | _ => none

end Querent.Sql

import Querent.Proofs.Sql.Plain.Phrase
import Querent.Sql.Grammar.Statement

/-!
# Plain trees

The trees of everyday queries: names, values, arithmetic, comparisons, logic, conversions, calls,
case distinctions and queries inside expressions; tables, joins and queries that rows are read from;
selections, operators between them, and tables that are defined beforehand.

A prefix operator is written right before its operand.  Where the operand starts with the same sign,
two minus signs or two signs for the size of a number stand together and are read as something else.
A plain tree is *strict* if this happens nowhere in it.
-/

namespace Querent.Sql.Plain

open Querent.Sql.Parser

/-! ## Names and values -/

/-- The keywords that name a type. -/
def typeWords : List Keyword :=
  plainTypes ++ sizedTypes ++ integerTypes ++ decimalTypes ++
    ["DOUBLE", "VARCHAR", "CHARACTER", "CHAR", "TIMESTAMP", "TIMESTAMPTZ", "TIME", "TIMETZ", "ENUM",
      "SET", "ARRAY"]

/-- The keywords that a plain term may start with. -/
def termWords : List Keyword :=
  ["TRUE", "FALSE", "NULL", "NOT", "CASE", "CAST", "TRY_CAST", "SAFE_CAST", "EXISTS"]

/-- The keywords that mean something where a name may stand. -/
def reserved : List Keyword :=
  termWords ++
    ["ARRAY", "INTERVAL", "CURRENT_TIMESTAMP", "CURRENT_TIME", "CURRENT_DATE", "LOCALTIME",
      "LOCALTIMESTAMP", "EXTRACT", "CEIL", "FLOOR", "SUBSTRING", "OVERLAY", "TRIM", "ARRAY_AGG",
      "LISTAGG", "POSITION", "CURRENT_CATALOG", "CURRENT_USER", "SESSION_USER", "USER", "MATCH",
      "STRUCT", "SELECT", "WITH", "RECURSIVE", "ALL", "ANY", "DISTINCT", "ON", "TOP", "LATERAL",
      "TABLE", "UNNEST", "GROUPING", "CUBE", "ROLLUP", "WHEN"]

/-- The keywords that name a type which may go on in parentheses. -/
def sizeable : List Keyword :=
  typeWords.filter fun word => !plainTypes.contains word

/-- The word that spells a name. -/
def wordOf (name : Ident) : Word :=
  match name.quote with
  | none => .plain name.text.toList
  | some quote => .quoted quote name.text.toList

/-- The token that spells a name. -/
def nameToken (name : Ident) : Token :=
  .word (wordOf name)

/-- Whether a name is a plain word or stands in quotes that the dialect knows. -/
def IsName (dialect : Dialect) (name : Ident) : Prop :=
  match name.quote with
  | none => IsWord name.text.toList
  | some quote => IsQuotable dialect quote name.text.toList

instance (dialect : Dialect) (name : Ident) : Decidable (IsName dialect name) :=
  match name with
  | ⟨text, none⟩ => inferInstanceAs (Decidable (IsWord text.toList))
  | ⟨text, some quote⟩ => inferInstanceAs (Decidable (IsQuotable dialect quote text.toList))

/-- Whether a name stands for nothing but a name. -/
def IsFree (name : Ident) : Prop :=
  ∀ word ∈ reserved, (wordOf name).keyword ≠ some word

instance (name : Ident) : Decidable (IsFree name) :=
  List.decidableBAll _ reserved

/-- Whether a name before a parenthesis stands for nothing but the name of a function. -/
def IsCallable (name : Ident) : Prop :=
  ∀ word ∈ reserved ++ sizeable, (wordOf name).keyword ≠ some word

instance (name : Ident) : Decidable (IsCallable name) :=
  List.decidableBAll _ (reserved ++ sizeable)

theorem IsCallable.free {name : Ident} (callable : IsCallable name) : IsFree name :=
  fun word member => callable word (List.mem_append_left _ member)

/-- Whether a value is a plain number or text, a truth value or none. -/
inductive IsValue : Literal → Prop where
  | number {digits : String} (isNumber : IsNumber digits.toList) : IsValue (.number digits false)
  | text {value : String} (isText : IsText value.toList) : IsValue (.quoted .single value)
  | boolean (value : Bool) : IsValue (.boolean value)
  | null : IsValue .null

/-- A size that fits where a size may stand. -/
def IsSize (size : Option Nat) : Prop :=
  ∀ n ∈ size, n ≤ largestSize

/-- Whether a type is one of the common types. -/
inductive IsType : DataType → Prop where
  | plain {name : Keyword} (known : name ∈ "DOUBLE" :: plainTypes) : IsType (.plain name)
  | sized {name : Keyword} (known : name ∈ sizedTypes) {size : Option Nat} (fits : IsSize size) :
    IsType (.sized name size)
  | integer {name : Keyword} (known : name ∈ integerTypes) {width : Option Nat}
      (fits : IsSize width) (unsigned : Bool) : IsType (.integer name width unsigned)
  | decimal {name : Keyword} (known : name ∈ decimalTypes) {precision : Option Nat}
      (fits : IsSize precision) : IsType (.decimal name precision none)
  | scaled {name : Keyword} (known : name ∈ decimalTypes) {precision scale : Nat}
      (fits : precision ≤ largestSize) (fitsScale : scale ≤ largestSize) :
    IsType (.decimal name (some precision) (some scale))
  | characters {name : Keyword} (known : name ∈ ["VARCHAR", "CHARACTER", "CHAR"])
      {length : Option Nat} (fits : IsSize length) : IsType (.characters name length none)
  | temporal {name : Keyword} (known : name ∈ ["TIMESTAMP", "TIME"]) {precision : Option Nat}
      (fits : IsSize precision) : IsType (.temporal name precision .unstated)

/-! ## Operators -/

/-- The operators that stand before their operand, with their signs. -/
def signOf : UnaryOperator → Option Symbol
  | .plus => some .plus
  | .minus => some .minus
  | .magnitude => some .atSign
  | .bitwiseNot => some .tilde
  | .leadingFactorial => some .doubleExclamation
  | .squareRoot => some .squareRoot
  | .cubeRoot => some .cubeRoot
  | .not | .trailingFactorial => none

/-- How tightly an operator before its operand binds. -/
def signPrecedence : UnaryOperator → Nat
  | .plus | .minus => productPrecedence
  | .not => negationPrecedence
  | _ => sumPrecedence

/-- Whether a dialect knows an operator with a sign before its operand. -/
def IsSign (dialect : Dialect) (operator : UnaryOperator) : Prop :=
  operator ∈ [UnaryOperator.plus, .minus] ∨ dialect = .postgres ∧
    operator ∈ [UnaryOperator.magnitude, .bitwiseNot, .leadingFactorial, .squareRoot, .cubeRoot]

instance (dialect : Dialect) (operator : UnaryOperator) : Decidable (IsSign dialect operator) :=
  inferInstanceAs (Decidable (_ ∨ _))

/-- The operators between two terms that every dialect knows. -/
def operators : List BinaryOperator :=
  [.keyword "OR", .keyword "AND", .keyword "XOR", .symbol .equal, .symbol .notEqual, .symbol .less,
    .symbol .lessEqual, .symbol .greater, .symbol .greaterEqual, .symbol .spaceship,
    .symbol .tilde, .symbol .tildeStar, .symbol .notTilde, .symbol .notTildeStar, .symbol .pipe,
    .symbol .caret, .symbol .ampersand, .symbol .plus, .symbol .minus, .symbol .times,
    .symbol .divide, .symbol .modulo, .symbol .concat]

/-- The token that spells an operator between two terms. -/
def operatorToken : BinaryOperator → Token
  | .symbol mark => .symbol mark
  | .keyword word => keywordToken word
  | .named _ => .stray ' '

/-- How tightly an operator between two terms binds. -/
def precedenceOf : BinaryOperator → Nat
  | .symbol mark => precedenceOfSymbol mark
  | .keyword word => precedenceOfKeyword word none none
  | .named _ => 0

/-- How tightly a test binds. -/
def testPrecedence : Nat := 17

/-- The first token of an expression, where it is a sign or the word for an existence test. -/
def opening : Expr → Option Token
  | .unary operator _ => (signOf operator).map .symbol
  | .exists false _ => some (keywordToken "EXISTS")
  | .binary left _ _ => opening left
  | .test operand _ _ => opening operand
  | .distinctFrom left _ _ => opening left
  | .between operand _ _ _ => opening operand
  | .matching operand _ _ _ _ => opening operand
  | .inList operand _ _ => opening operand
  | .inQuery operand _ _ => opening operand
  | _ => none

/-- Whether the sign of an operator and an operand behind it are read as something else. -/
def Meets (operator : UnaryOperator) (operand : Expr) : Prop :=
  operator ∈ [UnaryOperator.minus, .magnitude] ∧
    opening operand = (signOf operator).map .symbol

instance (operator : UnaryOperator) (operand : Expr) : Decidable (Meets operator operand) :=
  inferInstanceAs (Decidable (_ ∧ _))

example : Meets .magnitude (.unary .magnitude (.name ⟨"a", none⟩)) := by decide

/-- How tightly an operator after an expression must bind at most, so as not to take its end. -/
def edge : Expr → Nat
  | .unary operator operand => min (signPrecedence operator) (edge operand)
  | .binary _ operator right => min (precedenceOf operator) (edge right)
  | .distinctFrom _ _ _ => 0
  | .between _ _ _ high => min rangePrecedence (edge high)
  | .matching _ _ _ pattern _ => min patternPrecedence (edge pattern)
  | _ => productPrecedence

/-- How tightly an operator after a body must bind at most, so as not to take its end. -/
def bodyEdge : Body → Nat
  | .operation operator _ _ right => min (setPrecedence operator) (bodyEdge right)
  | _ => setPrecedence .intersect

/-! ## The parts of queries -/

/-- Whether the body of a query starts with the word for a selection. -/
def startsSelection : Body → Bool
  | .select _ => true
  | .operation _ _ left _ => startsSelection left
  | _ => false

/-- Whether a query in parentheses is told from an expression by its first word. -/
def IsTold (query : Query) : Prop :=
  query.definitions ≠ [] ∨ startsSelection query.body = true

/-- Whether the second name of a table and its columns are names. -/
def IsLabel (dialect : Dialect) (label : TableAlias) : Prop :=
  ∀ name ∈ label.name :: label.columns, IsName dialect name

/-- The expression that is selected as a column, if one is. -/
def valueOf : SelectItem → Option Expr
  | .expression value => some value
  | .aliased value _ => some value
  | .wildcard _ _ _ _ _ => none

/-- Whether a selected column has a plain name, or stands for all columns. -/
inductive IsItem (dialect : Dialect) : SelectItem → Prop where
  | expression (value : Expr) : IsItem dialect (.expression value)
  | aliased (value : Expr) {label : Ident} (isName : IsName dialect label) :
    IsItem dialect (.aliased value label)
  | wildcard : IsItem dialect (.wildcard none none [] none [])
  /-- All columns of a table. -/
  | qualified {first : Ident} {others : List Ident}
      (names : ∀ name ∈ first :: others, IsName dialect name) (free : IsFree first) :
    IsItem dialect (.wildcard (some (first :: others)) none [] none [])

/-- The kinds of joins that have no constraint. -/
def unconstrained : List JoinKind :=
  [.cross, .crossApply, .outerApply]

/-- Whether a join states at most one constraint, and none where it cannot have one. -/
inductive IsJoin (dialect : Dialect) : Join → Prop where
  | bare {kind : JoinKind} (known : kind ∈ unconstrained) (relation : Relation) :
    IsJoin dialect ⟨kind, relation, false, none, []⟩
  | unstated {kind : JoinKind} (known : kind ∉ unconstrained) (natural : Bool)
      (relation : Relation) : IsJoin dialect ⟨kind, relation, natural, none, []⟩
  | condition {kind : JoinKind} (known : kind ∉ unconstrained) (relation : Relation)
      (condition : Expr) : IsJoin dialect ⟨kind, relation, false, some condition, []⟩
  | columns {kind : JoinKind} (known : kind ∉ unconstrained) (relation : Relation) {first : Ident}
      {others : List Ident} (names : ∀ name ∈ first :: others, IsName dialect name) :
    IsJoin dialect ⟨kind, relation, false, none, first :: others⟩

/-- The clauses of a selection that plain selections do not have. -/
structure IsBare (select : Select) : Prop where
  distinctness : select.distinctness = .all ∨ select.distinctness = .distinct
  distinctOn : select.distinctOn = []
  top : select.top = none ∧ select.topPercent = false ∧ select.topTies = false
  target : select.target = none
  views : select.views = []
  groupAll : select.groupAll = false
  sorting : select.clusterBy = [] ∧ select.distributeBy = [] ∧ select.sortBy = []
  windows : select.windowNames = [] ∧ select.windows = []
  qualify : select.qualify = none

/-- What an operator between queries may do with equal rows. -/
def quantifiers : List SetQuantifier :=
  [.unstated, .all, .distinct]

/-! ## Plain trees -/

mutual

/--
An expression that is read as a whole where operators must bind more tightly than a precedence, and
opens at most so many levels of nesting.
-/
inductive IsTerm (dialect : Dialect) : Bool → Nat → Nat → Expr → Prop where
  | name {strict : Bool} {depth least : Nat} {name : Ident} (isName : IsName dialect name)
      (free : IsFree name) : IsTerm dialect strict depth least (.name name)
  | compound {strict : Bool} {depth least : Nat} {first second : Ident} {others : List Ident}
      (names : ∀ name ∈ first :: second :: others, IsName dialect name) (free : IsFree first) :
    IsTerm dialect strict depth least (.compound (first :: second :: others))
  | literal {strict : Bool} {depth least : Nat} {value : Literal} (isValue : IsValue value) :
    IsTerm dialect strict depth least (.literal value)
  | nested {strict : Bool} {depth least : Nat} {inner : Expr}
      (term : IsTerm dialect strict depth 0 inner) :
    IsTerm dialect strict (depth + 1) least (.nested inner)
  | tuple {strict : Bool} {depth least : Nat} {first second : Expr} {others : List Expr}
      (terms : ∀ item ∈ first :: second :: others, IsTerm dialect strict depth 0 item) :
    IsTerm dialect strict (depth + 1) least (.tuple (first :: second :: others))
  | sign {strict : Bool} {depth least : Nat} {operator : UnaryOperator} {operand : Expr}
      (known : IsSign dialect operator) (apart : strict = true → ¬ Meets operator operand)
      (term : IsTerm dialect strict depth (signPrecedence operator) operand) :
    IsTerm dialect strict depth least (.unary operator operand)
  | negation {strict : Bool} {depth least : Nat} {operand : Expr}
      (other : opening operand ≠ some (keywordToken "EXISTS"))
      (term : IsTerm dialect strict depth negationPrecedence operand) :
    IsTerm dialect strict depth least (.unary .not operand)
  | binary {strict : Bool} {depth least : Nat} {left right : Expr} {operator : BinaryOperator}
      (known : operator ∈ operators) (tight : least < precedenceOf operator)
      (loose : precedenceOf operator ≤ edge left)
      (leftTerm : IsTerm dialect strict depth least left)
      (rightTerm : IsTerm dialect strict depth (precedenceOf operator) right) :
    IsTerm dialect strict depth least (.binary left operator right)
  | test {strict : Bool} {depth least : Nat} {operand : Expr} (negated : Bool) (property : Test)
      (tight : least < testPrecedence) (loose : testPrecedence ≤ edge operand)
      (term : IsTerm dialect strict depth least operand) :
    IsTerm dialect strict depth least (.test operand negated property)
  | distinctFrom {strict : Bool} {depth least : Nat} {left right : Expr} (negated : Bool)
      (tight : least < testPrecedence) (loose : testPrecedence ≤ edge left)
      (leftTerm : IsTerm dialect strict (depth + 1) least left)
      (rightTerm : IsTerm dialect strict depth 0 right) :
    IsTerm dialect strict (depth + 1) least (.distinctFrom left negated right)
  | between {strict : Bool} {depth least : Nat} {operand low high : Expr} (negated : Bool)
      (tight : least < rangePrecedence) (loose : rangePrecedence ≤ edge operand)
      (looseLow : precedenceOf (.keyword "AND") ≤ edge low)
      (term : IsTerm dialect strict depth least operand)
      (lowTerm : IsTerm dialect strict depth rangePrecedence low)
      (highTerm : IsTerm dialect strict depth rangePrecedence high) :
    IsTerm dialect strict depth least (.between operand negated low high)
  | matching {strict : Bool} {depth least : Nat} {operand pattern : Expr} (negated : Bool)
      (kind : Match) (tight : least < patternPrecedence)
      -- A negation is kept apart from its operand as if it belonged to a list or a range.
      (loose : (if negated then rangePrecedence else patternPrecedence) ≤ edge operand)
      (term : IsTerm dialect strict depth least operand)
      (patternTerm : IsTerm dialect strict depth patternPrecedence pattern) :
    IsTerm dialect strict depth least (.matching operand negated kind pattern none)
  | inList {strict : Bool} {depth least : Nat} {operand first : Expr} {others : List Expr}
      (negated : Bool) (tight : least < rangePrecedence) (loose : rangePrecedence ≤ edge operand)
      (term : IsTerm dialect strict (depth + 1) least operand)
      (terms : ∀ item ∈ first :: others, IsTerm dialect strict depth 0 item) :
    IsTerm dialect strict (depth + 1) least (.inList operand negated (first :: others))
  | inQuery {strict : Bool} {depth least : Nat} {operand : Expr} {query : Query} (negated : Bool)
      (tight : least < rangePrecedence) (loose : rangePrecedence ≤ edge operand)
      (told : IsTold query) (term : IsTerm dialect strict depth least operand)
      (queryTerm : IsQuery dialect strict depth query) :
    IsTerm dialect strict depth least (.inQuery operand negated query)
  | case {strict : Bool} {depth least : Nat} {operand otherwise : Option Expr}
      {condition result : Expr} {others : List (Expr × Expr)}
      (operandTerm : ∀ term ∈ operand, IsTerm dialect strict depth 0 term)
      (conditionTerm : IsTerm dialect strict depth 0 condition)
      (resultTerm : IsTerm dialect strict depth 0 result)
      (conditions : ∀ branch ∈ others, IsTerm dialect strict depth 0 branch.1)
      (results : ∀ branch ∈ others, IsTerm dialect strict depth 0 branch.2)
      (otherwiseTerm : ∀ term ∈ otherwise, IsTerm dialect strict depth 0 term) :
    IsTerm dialect strict (depth + 1) least
      (.case operand (condition :: others.map (·.1)) (result :: others.map (·.2)) otherwise)
  | cast {strict : Bool} {depth least : Nat} {operand : Expr} {type : DataType} (kind : Cast)
      (isType : IsType type) (term : IsTerm dialect strict depth 0 operand) :
    IsTerm dialect strict (depth + 1) least (.cast kind operand type none)
  | call {strict : Bool} {depth least : Nat} {function : Ident} {path : List Ident} {first : Expr}
      {others : List Expr}
      (names : ∀ name ∈ function :: path, IsName dialect name) (callable : IsCallable function)
      (distinct : Bool) (terms : ∀ item ∈ first :: others, IsTerm dialect strict depth 0 item) :
    IsTerm dialect strict (depth + 1) least
      (.call (function :: path) false distinct (first :: others) [] none none none)
  /-- A call for nothing or for all columns. -/
  | bareCall {strict : Bool} {depth least : Nat} {function : Ident} {path : List Ident}
      (names : ∀ name ∈ function :: path, IsName dialect name) (callable : IsCallable function)
      (all : Bool) :
    IsTerm dialect strict depth least
      (.call (function :: path) false false (if all then [.wildcard] else []) [] none none none)
  | exists {strict : Bool} {depth least : Nat} {query : Query} (negated : Bool)
      (queryTerm : IsQuery dialect strict depth query) :
    IsTerm dialect strict depth least (.exists negated query)
  | query {strict : Bool} {depth least : Nat} {query : Query} (told : IsTold query)
      (queryTerm : IsQuery dialect strict depth query) :
    IsTerm dialect strict depth least (.query query)

/-- Something that rows are read from, which opens at most so many levels of nesting. -/
inductive IsRelation (dialect : Dialect) : Nat → Relation → Prop where
  | table {depth : Nat} {first : Ident} {others : List Ident} {label : Option TableAlias}
      (names : ∀ name ∈ first :: others, IsName dialect name) (free : IsFree first)
      (labels : ∀ found ∈ label, IsLabel dialect found) :
    IsRelation dialect depth (.table (first :: others) [] false [] label [])
  /-- A query in parentheses; where signs meet in it, it is read as a table of another name. -/
  | derived {depth : Nat} {query : Query} {label : Option TableAlias}
      (labels : ∀ found ∈ label, IsLabel dialect found)
      (queryTerm : IsQuery dialect true depth query) :
    IsRelation dialect depth (.derived false query label)

/--
The body of a query that is read as a whole where operators between queries must bind more tightly
than a precedence.
-/
inductive IsBody (dialect : Dialect) : Bool → Nat → Nat → Body → Prop where
  | select {strict : Bool} {depth least : Nat} {select : Select} (bare : IsBare select)
      (filled : select.items ≠ []) (items : ∀ item ∈ select.items, IsItem dialect item)
      -- A wildcard at the end of a selection would take the word for a difference behind it.
      (wildcards : select.sources = [] → ∀ item ∈ select.items, (valueOf item).isSome)
      (values : ∀ item ∈ select.items, ∀ value ∈ valueOf item,
        IsTerm dialect strict depth 0 value)
      (relations : ∀ source ∈ select.sources, IsRelation dialect (depth + 1) source.relation)
      (joins : ∀ source ∈ select.sources, ∀ join ∈ source.joins, IsJoin dialect join)
      (joined : ∀ source ∈ select.sources, ∀ join ∈ source.joins,
        IsRelation dialect (depth + 1) join.relation)
      (constraints : ∀ source ∈ select.sources, ∀ join ∈ source.joins,
        ∀ condition ∈ join.condition, IsTerm dialect strict depth 0 condition)
      (condition : ∀ condition ∈ select.condition, IsTerm dialect strict depth 0 condition)
      (groups : ∀ item ∈ select.groupBy, IsTerm dialect strict depth 0 item)
      (having : ∀ condition ∈ select.having, IsTerm dialect strict depth 0 condition) :
    IsBody dialect strict (depth + 1) least (.select select)
  | query {strict : Bool} {depth least : Nat} {query : Query}
      (queryTerm : IsQuery dialect strict depth query) :
    IsBody dialect strict depth least (.query query)
  | operation {strict : Bool} {depth least : Nat} {left right : Body} (operator : SetOperator)
      {quantifier : SetQuantifier} (known : quantifier ∈ quantifiers)
      (tight : least < setPrecedence operator) (loose : setPrecedence operator ≤ bodyEdge left)
      (leftBody : IsBody dialect strict depth least left)
      (rightBody : IsBody dialect strict depth (setPrecedence operator) right) :
    IsBody dialect strict depth least (.operation operator quantifier left right)

/-- A query that opens at most so many levels of nesting. -/
inductive IsQuery (dialect : Dialect) : Bool → Nat → Query → Prop where
  | mk {strict : Bool} {depth : Nat} {query : Query}
      (recursive : query.definitions = [] → query.recursive = false)
      (labels : ∀ definition ∈ query.definitions, IsLabel dialect definition.label)
      (free : ∀ definition ∈ query.definitions, IsFree definition.label.name)
      (origins : ∀ definition ∈ query.definitions, definition.origin = none)
      (definitions : ∀ definition ∈ query.definitions,
        IsQuery dialect strict (depth + 1) definition.query)
      (body : IsBody dialect strict (depth + 1) 0 query.body)
      (order : ∀ item ∈ query.order, IsTerm dialect strict depth 0 item.key)
      (limit : ∀ value ∈ query.limit, IsTerm dialect strict depth 0 value)
      (offset : ∀ value ∈ query.offset, IsTerm dialect strict depth 0 value)
      (unit : query.offset = none → query.offsetUnit = .unstated)
      (limitBy : query.limitBy = []) (fetch : query.fetch = none) (locks : query.locks = []) :
    IsQuery dialect strict (depth + 2) query

end

/-- A statement that is a plain query. -/
inductive IsStatement (dialect : Dialect) (strict : Bool) : Statement → Prop where
  | query {depth : Nat} {query : Query} (fits : depth < nestingLimit)
      (isQuery : IsQuery dialect strict depth query) : IsStatement dialect strict (.query query)

end Querent.Sql.Plain

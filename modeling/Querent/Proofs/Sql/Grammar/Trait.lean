import Querent.Proofs.Sql.Harmless
import Querent.Proofs.Sql.Wording.Texts
import Querent.Sql.Grammar.Relation

/-!
# Traits of the parts of a query

A *trait* asks something of tokens and of each kind of part that a query is made of.  It is *closed*
when every part has it as soon as the parts that it is put together from have it, and parts that are
single tokens have it from these.  A query that is read from tokens with a closed trait has the trait
itself, so what the grammar does with tokens has to be followed once only, whatever the trait is.
-/

namespace Querent.Sql

/-- What is asked of tokens and of each kind of part of a query. -/
structure Trait where
  tokens : List Located → Prop
  token : Token → Prop
  /-- What is asked of a word and of a decoded text. -/
  text : String → Prop
  name : Ident → Prop
  literal : Literal → Prop
  type : DataType → Prop
  operator : BinaryOperator → Prop
  expr : Expr → Prop
  /-- What is asked of a key of a map. -/
  key : Expr → Prop
  order : OrderItem → Prop
  bound : Bound → Prop
  window : Window → Prop
  partitions : List Ident → Prop
  relation : Relation → Prop
  join : Join → Prop
  source : Source → Prop
  /-- What is asked of a view of the values that a function yields for each row. -/
  view : Source → Prop
  item : SelectItem → Prop
  selection : Select → Prop
  body : Body → Prop
  definition : Definition → Prop
  query : Query → Prop

namespace Trait

variable (trait : Trait)

/-- Whether all names in a second name of a table have a trait. -/
def OfLabel (label : TableAlias) : Prop :=
  trait.name label.name ∧ ∀ column ∈ label.columns, trait.name column

/-- Whether the name and the type of a field of a record have a trait. -/
def OfField (field : Option Ident × DataType) : Prop :=
  (∀ name ∈ field.1, trait.name name) ∧ trait.type field.2

/-- Whether the texts in the format of a conversion have a trait. -/
def OfFormat (format : Literal × Option Literal) : Prop :=
  trait.literal format.1 ∧ ∀ zone ∈ format.2, trait.literal zone

/-- Whether a column and its new name have a trait. -/
def OfRenamed (pair : Ident × Ident) : Prop :=
  trait.name pair.1 ∧ trait.name pair.2

/-- Whether all columns that a wildcard leaves out have a trait. -/
def OfExclusion : Exclusion → Prop
  | .one column => trait.name column
  | .many columns => ∀ column ∈ columns, trait.name column

/-- Whether all columns that a wildcard renames have a trait. -/
def OfRenaming : Renaming → Prop
  | .one column label => trait.OfRenamed (column, label)
  | .many columns => ∀ pair ∈ columns, trait.OfRenamed pair

/-- Whether the parts of a lock have a trait, and the lock leaves the rows readable. -/
structure OfLock (lock : Lock) : Prop where
  shared : lock.exclusive = false
  table : ∀ name ∈ lock.table, ∀ part ∈ name, trait.name part
  waiting : ∀ words ∈ lock.waiting, trait.text words

/-- Whether all parts of a selection have a trait. -/
structure OfParts (selection : Select) : Prop where
  distinctOn : ∀ item ∈ selection.distinctOn, trait.expr item
  top : ∀ quantity ∈ selection.top, trait.expr quantity
  items : ∀ item ∈ selection.items, trait.item item
  target : ∀ target ∈ selection.target, ∀ part ∈ target.name, trait.name part
  sources : ∀ source ∈ selection.sources, trait.source source
  views : ∀ view ∈ selection.views, trait.view view
  condition : ∀ value ∈ selection.condition, trait.expr value
  groupBy : ∀ item ∈ selection.groupBy, trait.expr item
  clusterBy : ∀ item ∈ selection.clusterBy, trait.expr item
  distributeBy : ∀ item ∈ selection.distributeBy, trait.expr item
  sortBy : ∀ item ∈ selection.sortBy, trait.expr item
  having' : ∀ value ∈ selection.having, trait.expr value
  windowNames : ∀ name ∈ selection.windowNames, trait.name name
  windows : ∀ window ∈ selection.windows, trait.window window
  qualify : ∀ value ∈ selection.qualify, trait.expr value

/-- Whether all parts of a query have a trait. -/
structure OfClauses (query : Query) : Prop where
  definitions : ∀ definition ∈ query.definitions, trait.definition definition
  body : trait.body query.body
  order : ∀ item ∈ query.order, trait.order item
  limit : ∀ value ∈ query.limit, trait.expr value
  limitBy : ∀ item ∈ query.limitBy, trait.expr item
  offset : ∀ value ∈ query.offset, trait.expr value
  fetch : ∀ fetch ∈ query.fetch, ∀ quantity ∈ fetch.quantity, trait.literal quantity
  locks : ∀ lock ∈ query.locks, trait.OfLock lock

end Trait

namespace Trait

/-- Whether texts, names, values and types have a trait when their tokens and parts have it. -/
structure ClosedTexts (trait : Trait) : Prop where
  -- Tokens
  harmless {tokens : List Located} : trait.tokens tokens → Harmless tokens
  head {tokens : List Located} :
    trait.tokens tokens → ∀ token ∈ tokenOf tokens.head?, trait.token token
  -- Texts and names
  text_innocent {text : String} : Innocent text → trait.text text
  text_token {token : Token} : trait.token token → trait.text token.text
  text_word {word : Word} : trait.token (.word word) → trait.text word.text
  text_quoted {form : QuotedForm} {value : String} :
    trait.token (.quoted form value) → trait.text value
  text_number {digits : String} {long : Bool} :
    trait.token (.number digits long) → trait.text digits
  name_word {word : Word} : trait.token (.word word) → trait.name word.ident
  name_quoted {value : String} {quote : Char} :
    trait.text value → quote = '\'' ∨ quote = '"' → trait.name ⟨value, some quote⟩
  name_text {text : String} : trait.text text → trait.name ⟨text, none⟩
  -- Values
  literal_number {digits : String} {long : Bool} :
    trait.token (.number digits long) → trait.literal (.number digits long)
  literal_quoted {form : QuotedForm} {value : String} :
    trait.token (.quoted form value) → trait.literal (.quoted form value)
  literal_text {form : QuotedForm} {text : String} :
    trait.text text → form = .single ∨ form = .double → trait.literal (.quoted form text)
  literal_dollarQuoted {tag : Option String} {value : String} :
    trait.token (.dollarQuoted tag value) → trait.literal (.dollarQuoted tag value)
  literal_placeholder {name : String} :
    trait.token (.placeholder name) → trait.literal (.placeholder name)
  literal_sign {sign : Symbol} {name : String} :
    trait.text name → sign = .colon ∨ sign = .atSign →
      trait.literal (.placeholder (sign.text ++ name))
  literal_boolean {value : Bool} : trait.literal (.boolean value)
  literal_null : trait.literal .null
  literal_bare {text : String} : trait.text text → trait.literal (.bare text)
  -- Types
  type_plain {name : String} : trait.text name → trait.type (.plain name)
  type_sized {name : String} {size : Option Nat} : trait.text name → trait.type (.sized name size)
  type_integer {name : String} {width : Option Nat} {unsigned : Bool} :
    trait.text name → trait.type (.integer name width unsigned)
  type_characters {name : String} {length : Option Nat} {unit : Option String} :
    trait.text name → (∀ word ∈ unit, trait.text word) →
      trait.type (.characters name length unit)
  type_decimal {name : String} {precision scale : Option Nat} :
    trait.text name → trait.type (.decimal name precision scale)
  type_temporal {name : String} {precision : Option Nat} {zone : Zone} :
    trait.text name → trait.text (name ++ "TZ") → trait.type (.temporal name precision zone)
  type_members {name : String} {values : List String} :
    trait.text name → (∀ value ∈ values, trait.text value) → trait.type (.members name values)
  type_custom {name : QualifiedName} {modifiers : List String} :
    (∀ part ∈ name, trait.name part) → (∀ modifier ∈ modifiers, trait.text modifier) →
      trait.type (.custom name modifiers)
  type_arrayOf {element : DataType} : trait.type element → trait.type (.arrayOf element)
  type_angledArray {element : DataType} :
    trait.type element → trait.type (.angledArray element)
  -- Operators
  operator_symbol {mark : Symbol} : trait.operator (.symbol mark)
  operator_keyword {word : Keyword} : trait.text word → trait.operator (.keyword word)
  operator_named {parts : List String} :
    (∀ part ∈ parts, trait.text part) → trait.operator (.named parts)

/-- Whether expressions, orders and windows have a trait when their parts have it. -/
structure ClosedExprs (trait : Trait) : Prop where
  expr_name {name : Ident} : trait.name name → trait.expr (.name name)
  expr_compound {parts : List Ident} :
    (∀ part ∈ parts, trait.name part) → trait.expr (.compound parts)
  expr_literal {value : Literal} : trait.literal value → trait.expr (.literal value)
  expr_introduced {characterSet : String} {value : Literal} :
    trait.text characterSet → trait.literal value → trait.expr (.introduced characterSet value)
  expr_typed {type : DataType} {value : String} :
    trait.type type → trait.text value → trait.expr (.typed type value)
  expr_nested {operand : Expr} : trait.expr operand → trait.expr (.nested operand)
  expr_tuple {items : List Expr} :
    (∀ item ∈ items, trait.expr item) → trait.expr (.tuple items)
  expr_array {named : Bool} {items : List Expr} :
    (∀ item ∈ items, trait.expr item) → trait.expr (.array named items)
  expr_unary {operator : UnaryOperator} {operand : Expr} :
    trait.expr operand → trait.expr (.unary operator operand)
  expr_binary {left : Expr} {operator : BinaryOperator} {right : Expr} :
    trait.expr left → trait.operator operator → trait.expr right →
      trait.expr (.binary left operator right)
  expr_quantified {left : Expr} {operator : BinaryOperator} {all : Bool} {right : Expr} :
    trait.expr left → trait.operator operator → trait.expr right →
      trait.expr (.quantified left operator all right)
  expr_test {operand : Expr} {negated : Bool} {test : Test} :
    trait.expr operand → trait.expr (.test operand negated test)
  expr_distinctFrom {left : Expr} {negated : Bool} {right : Expr} :
    trait.expr left → trait.expr right → trait.expr (.distinctFrom left negated right)
  expr_inList {operand : Expr} {negated : Bool} {items : List Expr} :
    trait.expr operand → (∀ item ∈ items, trait.expr item) →
      trait.expr (.inList operand negated items)
  expr_inQuery {operand : Expr} {negated : Bool} {query : Query} :
    trait.expr operand → trait.query query → trait.expr (.inQuery operand negated query)
  expr_inUnnest {operand : Expr} {negated : Bool} {list : Expr} :
    trait.expr operand → trait.expr list → trait.expr (.inUnnest operand negated list)
  expr_between {operand : Expr} {negated : Bool} {low high : Expr} :
    trait.expr operand → trait.expr low → trait.expr high →
      trait.expr (.between operand negated low high)
  expr_matching {operand : Expr} {negated : Bool} {kind : Match} {pattern : Expr}
      {escape : Option Char} :
    trait.expr operand → trait.expr pattern →
      (∀ c ∈ escape, trait.text (String.singleton c)) →
        trait.expr (.matching operand negated kind pattern escape)
  expr_cast {kind : Cast} {operand : Expr} {type : DataType}
      {format : Option (Literal × Option Literal)} :
    trait.expr operand → trait.type type → (∀ found ∈ format, trait.OfFormat found) →
      trait.expr (.cast kind operand type format)
  expr_extract {field : Keyword} {operand : Expr} :
    trait.text field → trait.expr operand → trait.expr (.extract field operand)
  expr_round {up : Bool} {operand : Expr} {field : Option Keyword} :
    trait.expr operand → (∀ word ∈ field, trait.text word) →
      trait.expr (.round up operand field)
  expr_position {needle haystack : Expr} :
    trait.expr needle → trait.expr haystack → trait.expr (.position needle haystack)
  expr_substring {operand : Expr} {start length : Option Expr} :
    trait.expr operand → (∀ value ∈ start, trait.expr value) →
      (∀ value ∈ length, trait.expr value) → trait.expr (.substring operand start length)
  expr_overlay {operand replacement start : Expr} {length : Option Expr} :
    trait.expr operand → trait.expr replacement → trait.expr start →
      (∀ value ∈ length, trait.expr value) →
        trait.expr (.overlay operand replacement start length)
  expr_trim {side : Option TrimSide} {removed : Option Expr} {operand : Expr}
      {characters : List Expr} :
    (∀ value ∈ removed, trait.expr value) → trait.expr operand →
      (∀ item ∈ characters, trait.expr item) →
        trait.expr (.trim side removed operand characters)
  expr_collate {operand : Expr} {collation : QualifiedName} :
    trait.expr operand → (∀ part ∈ collation, trait.name part) →
      trait.expr (.collate operand collation)
  expr_case {operand otherwise : Option Expr} {conditions results : List Expr} :
    (∀ value ∈ operand, trait.expr value) → (∀ condition ∈ conditions, trait.expr condition) →
      (∀ result ∈ results, trait.expr result) → (∀ value ∈ otherwise, trait.expr value) →
        trait.expr (.case operand conditions results otherwise)
  expr_exists {negated : Bool} {query : Query} :
    trait.query query → trait.expr (.exists negated query)
  expr_query {query : Query} : trait.query query → trait.expr (.query query)
  expr_arrayQuery {query : Query} : trait.query query → trait.expr (.arrayQuery query)
  expr_call {name : QualifiedName} {bare distinct : Bool} {items : List Expr}
      {order : List OrderItem} {filter : Option Expr} {nulls : Option NullTreatment}
      {window : Option Window} :
    (∀ part ∈ name, trait.name part) → (∀ item ∈ items, trait.expr item) →
      (∀ item ∈ order, trait.order item) → (∀ value ∈ filter, trait.expr value) →
        (∀ value ∈ window, trait.window value) →
          trait.expr (.call name bare distinct items order filter nulls window)
  expr_argument {name : Ident} {value : Expr} :
    trait.name name → trait.expr value → trait.expr (.argument name value)
  expr_filtered {operand condition : Expr} :
    trait.expr operand → trait.expr condition → trait.expr (.filtered operand condition)
  expr_arrayAggregate {distinct : Bool} {operand : Expr} {order : List OrderItem}
      {limit : Option Expr} :
    trait.expr operand → (∀ item ∈ order, trait.order item) →
      (∀ value ∈ limit, trait.expr value) →
        trait.expr (.arrayAggregate distinct operand order limit)
  expr_listAggregate {distinct : Bool} {operand : Expr} {separator : Option Expr}
      {overflow : Overflow} {order : List OrderItem} :
    trait.expr operand → (∀ value ∈ separator, trait.expr value) →
      overflow = .unstated ∨ overflow = .error → (∀ item ∈ order, trait.order item) →
        trait.expr (.listAggregate distinct operand separator overflow none order)
  expr_interval {value : Expr} {leading last : Option Keyword} {whole fraction : Option Nat} :
    trait.expr value → (∀ word ∈ leading, trait.text word) → (∀ word ∈ last, trait.text word) →
      trait.expr (.interval value leading whole last fraction)
  expr_grouping {kind : Grouping} {sets : List Expr} :
    (∀ set ∈ sets, trait.expr set) → trait.expr (.grouping kind sets)
  expr_index {operand : Expr} {indexes : List Expr} :
    trait.expr operand → (∀ index ∈ indexes, trait.expr index) →
      trait.expr (.index operand indexes)
  expr_lookup {operand : Expr} {keys : List Expr} :
    trait.expr operand → (∀ key ∈ keys, trait.key key) → trait.expr (.lookup operand keys)
  expr_field {operand : Expr} {name : Ident} :
    trait.expr operand → trait.name name → trait.expr (.field operand name)
  expr_atTimeZone {operand : Expr} {zone : String} :
    trait.expr operand → trait.text zone → trait.expr (.atTimeZone operand zone)
  expr_searchText {columns : List Ident} {value : Literal} {mode : Option String} :
    (∀ column ∈ columns, trait.name column) → trait.literal value →
      (∀ words ∈ mode, trait.text words) → trait.expr (.searchText columns value mode)
  expr_record {fields : List (Option Ident × DataType)} {values : List Expr} :
    (∀ field ∈ fields, trait.OfField field) → (∀ value ∈ values, trait.expr value) →
      trait.expr (.record fields values)
  expr_labelled {operand : Expr} {asKeyword : Bool} {name : Ident} :
    trait.expr operand → trait.name name → trait.expr (.labelled operand asKeyword name)
  expr_wildcard : trait.expr .wildcard
  expr_qualifiedWildcard {name : QualifiedName} :
    trait.expr (.qualifiedWildcard name) ↔ ∀ part ∈ name, trait.name part
  key_text {text : String} : trait.text text → trait.key (.literal (.quoted .single text))
  key_number {digits : String} : trait.text digits → trait.key (.literal (.number digits false))
  key_expr {e : Expr} : trait.expr e → (∀ value, e ≠ .literal value) → trait.key e
  -- Orders and windows
  order_key {key : Expr} {ascending nullsFirst : Option Bool} :
    trait.expr key → trait.order ⟨key, ascending, nullsFirst⟩
  bound_unstated : trait.bound .unstated
  bound_currentRow : trait.bound .currentRow
  bound_preceding {distance : Option Expr} :
    (∀ value ∈ distance, trait.expr value) → trait.bound (.preceding distance)
  bound_following {distance : Option Expr} :
    (∀ value ∈ distance, trait.expr value) → trait.bound (.following distance)
  window_named {name : Ident} : trait.name name → trait.window (.named name)
  window_spec {partition : List Expr} {order : List OrderItem} {units : Option FrameUnits}
      {start finish : Bound} :
    (∀ item ∈ partition, trait.expr item) → (∀ item ∈ order, trait.order item) →
      trait.bound start → trait.bound finish →
        trait.window (.spec partition order units start finish)

/-- Whether relations, selections and queries have a trait when their parts have it. -/
structure ClosedQueries (trait : Trait) : Prop where
  -- Relations
  relation_table {name : QualifiedName} {partitions : List Ident} {called : Bool}
      {items : List Expr} {label : Option TableAlias} {hints : List Expr} :
    (∀ part ∈ name, trait.name part) → trait.partitions partitions →
      (∀ item ∈ items, trait.expr item) → (∀ name ∈ label, trait.OfLabel name) →
        (∀ hint ∈ hints, trait.expr hint) →
          trait.relation (.table name partitions called items label hints)
  relation_derived {lateral : Bool} {query : Query} {label : Option TableAlias} :
    trait.query query → (∀ name ∈ label, trait.OfLabel name) →
      trait.relation (.derived lateral query label)
  relation_function {name : QualifiedName} {items : List Expr} {label : Option TableAlias} :
    (∀ part ∈ name, trait.name part) → (∀ item ∈ items, trait.expr item) →
      (∀ name ∈ label, trait.OfLabel name) → trait.relation (.function name items label)
  relation_expression {value : Expr} {label : Option TableAlias} :
    trait.expr value → (∀ name ∈ label, trait.OfLabel name) →
      trait.relation (.expression value label)
  relation_unnest {arrays : List Expr} {label : Option TableAlias} {withOffset : Bool}
      {offsetAlias : Option Ident} :
    (∀ item ∈ arrays, trait.expr item) → (∀ name ∈ label, trait.OfLabel name) →
      (∀ name ∈ offsetAlias, trait.name name) →
        trait.relation (.unnest arrays label withOffset offsetAlias)
  relation_nested {source : Source} {label : Option TableAlias} :
    trait.source source → (∀ name ∈ label, trait.OfLabel name) →
      trait.relation (.nested source label)
  relation_pivot {relation : Relation} {aggregate : Expr} {column : List Ident}
      {values : List Literal} {label : Option TableAlias} :
    trait.relation relation → trait.expr aggregate → (∀ part ∈ column, trait.name part) →
      (∀ value ∈ values, trait.literal value) → (∀ name ∈ label, trait.OfLabel name) →
        trait.relation (.pivot relation aggregate column values label)
  relation_unpivot {relation : Relation} {value name : Ident} {columns : List Ident}
      {label : Option TableAlias} :
    trait.relation relation → trait.name value → trait.name name →
      (∀ column ∈ columns, trait.name column) → (∀ name ∈ label, trait.OfLabel name) →
        trait.relation (.unpivot relation value name columns label)
  relation_withAlias {relation : Relation} {label : TableAlias} :
    trait.relation relation → Parser.Relation.label? relation = none → trait.OfLabel label →
      trait.relation (Parser.Relation.withAlias relation label)
  join_on {kind : JoinKind} {relation : Relation} {natural : Bool} {condition : Option Expr}
      {columns : List Ident} :
    trait.relation relation → (∀ value ∈ condition, trait.expr value) →
      (∀ column ∈ columns, trait.name column) →
        trait.join ⟨kind, relation, natural, condition, columns⟩
  source_joins {relation : Relation} {joins : List Join} :
    trait.relation relation → (∀ join ∈ joins, trait.join join) → trait.source ⟨relation, joins⟩
  source_relation {source : Source} : trait.source source → trait.relation source.relation
  view_lateral {outer : Bool} {value : Expr} {name : QualifiedName} {columns : List Ident} :
    trait.expr value → (∀ part ∈ name, trait.name part) →
      (∀ column ∈ columns, trait.name column) → trait.view ⟨.view outer value name columns, []⟩
  -- Selections
  item_expression {value : Expr} : trait.expr value → trait.item (.expression value)
  item_aliased {value : Expr} {label : Ident} :
    trait.expr value → trait.name label → trait.item (.aliased value label)
  item_wildcard {table : Option QualifiedName} {exclude : Option Exclusion} {except : List Ident}
      {rename : Option Renaming} :
    (∀ name ∈ table, ∀ part ∈ name, trait.name part) →
      (∀ columns ∈ exclude, trait.OfExclusion columns) →
        (∀ column ∈ except, trait.name column) → (∀ columns ∈ rename, trait.OfRenaming columns) →
          trait.item (.wildcard table exclude except rename [])
  selection_parts {selection : Select} : trait.OfParts selection → trait.selection selection
  -- Bodies and queries
  body_select {selection : Select} : trait.selection selection → trait.body (.select selection)
  body_query {query : Query} : trait.query query → trait.body (.query query)
  body_operation {operator : SetOperator} {quantifier : SetQuantifier} {left right : Body} :
    trait.body left → trait.body right → trait.body (.operation operator quantifier left right)
  body_values {rowKeyword : Bool} {rows : List Expr} :
    (∀ row ∈ rows, ∃ items, row = .tuple items ∧ ∀ item ∈ items, trait.expr item) →
      trait.body (.values rowKeyword rows)
  body_table {schema : Option String} {name : String} :
    (∀ text ∈ schema, trait.text text) → trait.text name → trait.body (.table schema name)
  definition_query {label : TableAlias} {query : Query} {origin : Option Ident} :
    trait.OfLabel label → trait.query query → (∀ name ∈ origin, trait.name name) →
      trait.definition ⟨label, query, origin⟩
  query_clauses {query : Query} : trait.OfClauses query → trait.query query

open Querent.Sql.Parser in
/--
Whether a trait is passed on from tokens and parts to what is made of them in a dialect, and no more
tokens are needed to have it than those that are still to be read.
-/
class Closed (dialect : Dialect) (trait : Trait) : Prop extends Lasts trait.tokens,
    ClosedTexts trait, ClosedExprs trait, ClosedQueries trait where
  partitions_read : Ensures dialect trait.tokens trait.partitions (do
    if ← dialectIn [.mySql, .generic] <&&> keyword "PARTITION" then identsInParens else pure [])

end Trait

end Querent.Sql

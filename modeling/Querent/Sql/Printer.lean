import Querent.Sql.Tree

/-!
# Canonical text

Every query has one canonical text: keywords in upper case, one blank between parts, an explicit
`AS` before a second name, and no comments.  The printer follows the tree and decides nothing; what
a reader leaves out of the tree is not in the text either.
-/

namespace Querent.Sql

/-- Parts separated by commas. -/
def commaJoined (parts : List String) : String :=
  ", ".intercalate parts

/-- A part that is present only on a condition. -/
def onlyIf (present : Bool) (part : String) : String :=
  if present then part else ""

/-- A list of parts after an introduction, or nothing for an empty list. -/
def listClause (introduction : String) (parts : List String) : String :=
  if parts.isEmpty then "" else introduction ++ commaJoined parts

/-- An optional part after an introduction. -/
def optionClause (introduction : String) : Option String → String
  | some part => introduction ++ part
  | none => ""

/--
Quotes inside quoted text are doubled, except after a backslash; two quotes in a row already count
as doubled, so the second of them is swallowed.
-/
def doubleQuotes (quote previous : Char) (swallow : Bool) : List Char → List Char
  | [] => []
  | c :: rest =>
    if c == quote then
      if swallow then doubleQuotes quote c false rest
      else if previous == '\\' then c :: doubleQuotes quote previous false rest
      else c :: c :: doubleQuotes quote c true rest
    else c :: doubleQuotes quote c false rest

/-- A text in quotes. -/
def quoteText (quote : Char) (text : String) : String :=
  let inner := String.ofList (doubleQuotes quote (Char.ofNat 0) false text.toList)
  String.singleton quote ++ inner ++ String.singleton quote

/-- How a character is written in a text with backslash escapes. -/
def escapeChar : Char → List Char
  | '\'' => ['\\', '\'']
  | '\\' => ['\\', '\\']
  | '\n' => ['\\', 'n']
  | '\t' => ['\\', 't']
  | '\r' => ['\\', 'r']
  | c => [c]

/-- The canonical text of a name. -/
def Ident.sql : Ident → String
  | ⟨text, none⟩ => text
  | ⟨text, some '['⟩ => "[" ++ text ++ "]"
  | ⟨text, some quote⟩ => quoteText quote text

/-- The canonical text of a qualified name. -/
def QualifiedName.sql (name : QualifiedName) : String :=
  ".".intercalate (name.map Ident.sql)

/-- The canonical text of a list of names. -/
def identList (names : List Ident) : String :=
  commaJoined (names.map Ident.sql)

namespace Literal

/-- The canonical text of a value. -/
def sql : Literal → String
  | .number digits long => numberText digits long
  | .quoted .single value => quoteText '\'' value
  | .quoted .double value => quoteText '"' value
  | .quoted .escaped value => "E'" ++ String.ofList (value.toList.flatMap escapeChar) ++ "'"
  | .quoted form value =>
    let (letter, mark) := form.opening
    letter ++ mark ++ value ++ mark
  | .dollarQuoted tag value => dollarQuotedText tag value
  | .boolean value => if value then "true" else "false"
  | .null => "NULL"
  | .placeholder name => name
  | .bare text => text

end Literal

namespace DataType

/-- A length or precision in parentheses. -/
def size : Option Nat → String
  | some n => s!"({n})"
  | none => ""

/-- How a time zone follows the name of a type. -/
def zone : Zone → String
  | .unstated => ""
  | .withZone => " WITH TIME ZONE"
  | .withoutZone => " WITHOUT TIME ZONE"
  | .short => "TZ"

mutual

/-- The canonical text of a type. -/
def sql : DataType → String
  | .plain name => name
  | .sized name length => name ++ size length
  | .integer name width unsigned => name ++ size width ++ onlyIf unsigned " UNSIGNED"
  | .characters name none _ => name
  | .characters name (some length) unit =>
    name ++ s!"({length}" ++ optionClause " " unit ++ ")"
  | .decimal name (some precision) (some scale) => name ++ s!"({precision},{scale})"
  | .decimal name precision _ => name ++ size precision
  | .temporal name precision .short => name ++ "TZ" ++ size precision
  | .temporal name precision tz => name ++ size precision ++ zone tz
  | .members name values =>
    name ++ "(" ++ commaJoined (values.map (quoteText '\'')) ++ ")"
  | .custom name [] => QualifiedName.sql name
  | .custom name modifiers => QualifiedName.sql name ++ "(" ++ commaJoined modifiers ++ ")"
  | .arrayOf element => element.sql ++ "[]"
  | .angledArray element => "ARRAY<" ++ element.sql ++ ">"
  | .record fields => "STRUCT<" ++ commaJoined (fieldsSql fields) ++ ">"

/-- The canonical texts of the fields of a record. -/
def fieldsSql : List (Option Ident × DataType) → List String
  | [] => []
  | (some name, type) :: rest => (name.sql ++ " " ++ type.sql) :: fieldsSql rest
  | (none, type) :: rest => type.sql :: fieldsSql rest

end

end DataType

/-- The canonical text of an operator on one operand. -/
def UnaryOperator.sql : UnaryOperator → String
  | plus => "+"
  | minus => "-"
  | not => "NOT"
  | squareRoot => "|/"
  | cubeRoot => "||/"
  | leadingFactorial => "!!"
  | trailingFactorial => "!"
  | magnitude => "@"
  | bitwiseNot => "~"

/-- The canonical text of an operator on two operands. -/
def BinaryOperator.sql : BinaryOperator → String
  | symbol mark => mark.text
  | keyword word => word
  | named parts => "OPERATOR(" ++ ".".intercalate parts ++ ")"

/-- The canonical text between two operands: only a path into a document takes no blanks. -/
def BinaryOperator.between : BinaryOperator → String
  | symbol .colon => ":"
  | operator => " " ++ operator.sql ++ " "

/-- The canonical text of a test after its operand. -/
def Test.sql (test : Test) (negated : Bool) : String :=
  " IS " ++ onlyIf negated "NOT " ++
    match test with
    | isNull => "NULL"
    | isTrue => "TRUE"
    | isFalse => "FALSE"
    | isUnknown => "UNKNOWN"

/-- The canonical text of a comparison with a pattern. -/
def Match.sql : Match → String
  | like => "LIKE"
  | ilike => "ILIKE"
  | similar => "SIMILAR TO"
  | regexp => "REGEXP"
  | rlike => "RLIKE"

/-- The name of a conversion. -/
def Cast.sql : Cast → String
  | cast => "CAST"
  | tryCast => "TRY_CAST"
  | safeCast => "SAFE_CAST"

/-- The canonical text of the end of a text. -/
def TrimSide.sql : TrimSide → String
  | both => "BOTH"
  | leading => "LEADING"
  | trailing => "TRAILING"

/-- The canonical text of the treatment of nulls. -/
def NullTreatment.sql : NullTreatment → String
  | respect => "RESPECT NULLS"
  | ignore => "IGNORE NULLS"

/-- The canonical text of frame units. -/
def FrameUnits.sql : FrameUnits → String
  | rows => "ROWS"
  | range => "RANGE"
  | groups => "GROUPS"

/-- The canonical text of an operator between queries. -/
def SetOperator.sql : SetOperator → String
  | union => "UNION"
  | except => "EXCEPT"
  | intersect => "INTERSECT"

/-- The canonical text after an operator between queries. -/
def SetQuantifier.sql : SetQuantifier → String
  | unstated => ""
  | all => " ALL"
  | distinct => " DISTINCT"
  | byName => " BY NAME"
  | allByName => " ALL BY NAME"
  | distinctByName => " DISTINCT BY NAME"

/-- The canonical text after the number of skipped rows. -/
def OffsetUnit.sql : OffsetUnit → String
  | unstated => ""
  | row => " ROW"
  | rows => " ROWS"

/-- The canonical text of a limit in the wording of the standard. -/
def Fetch.sql (fetch : Fetch) : String :=
  "FETCH FIRST " ++ optionClause "" (fetch.quantity.map fun quantity =>
      quantity.sql ++ onlyIf fetch.percent " PERCENT" ++ " ") ++
    "ROWS " ++ (if fetch.withTies then "WITH TIES" else "ONLY")

/-- The canonical text of a lock. -/
def Lock.sql (lock : Lock) : String :=
  (if lock.exclusive then "FOR UPDATE" else "FOR SHARE") ++
    optionClause " OF " (lock.table.map QualifiedName.sql) ++ optionClause " " lock.waiting

/-- The canonical text of a table that takes rows. -/
def Target.sql (target : Target) : String :=
  "INTO" ++ onlyIf target.temporary " TEMPORARY" ++ onlyIf target.unlogged " UNLOGGED" ++
    onlyIf target.tableKeyword " TABLE" ++ " " ++ QualifiedName.sql target.name

/-- The canonical text of a second name of a table. -/
def TableAlias.sql (label : TableAlias) : String :=
  label.name.sql ++
    onlyIf (!label.columns.isEmpty) (" (" ++ identList label.columns ++ ")")

/-- An optional second name after a table. -/
def aliasSql (label : Option TableAlias) : String :=
  optionClause " AS " (label.map TableAlias.sql)

/-- The canonical text of left-out columns. -/
def Exclusion.sql : Exclusion → String
  | one column => "EXCLUDE " ++ column.sql
  | many columns => "EXCLUDE (" ++ identList columns ++ ")"

/-- The canonical text of a column with a new name. -/
def renamed (column label : Ident) : String :=
  column.sql ++ " AS " ++ label.sql

/-- The canonical text of renamed columns. -/
def Renaming.sql : Renaming → String
  | one column label => "RENAME " ++ renamed column label
  | many columns => "RENAME (" ++
      commaJoined (columns.map fun (column, label) => renamed column label) ++ ")"

/-- The words of a join before the joined table. -/
def JoinKind.sql : JoinKind → String
  | inner => "JOIN"
  | left => "LEFT JOIN"
  | right => "RIGHT JOIN"
  | full => "FULL JOIN"
  | leftSemi => "LEFT SEMI JOIN"
  | rightSemi => "RIGHT SEMI JOIN"
  | leftAnti => "LEFT ANTI JOIN"
  | rightAnti => "RIGHT ANTI JOIN"
  | cross => "CROSS JOIN"
  | crossApply => "CROSS APPLY"
  | outerApply => "OUTER APPLY"

/-- The canonical text of an interval, given the text of its value. -/
def intervalSql (value : String) (leading : Option Keyword) (leadingPrecision : Option Nat)
    (last : Option Keyword) (fractionPrecision : Option Nat) : String :=
  match leading, leadingPrecision, fractionPrecision with
  | some "SECOND", some whole, some fraction => s!"INTERVAL {value} SECOND ({whole}, {fraction})"
  | _, _, _ =>
    "INTERVAL " ++ value ++ optionClause " " leading ++
      optionClause " " (leadingPrecision.map fun n => s!"({n})") ++ optionClause " TO " last ++
      optionClause " " (fractionPrecision.map fun n => s!"({n})")

/-- The canonical text of the overflow rule of a list aggregate. -/
def Overflow.sql (overflow : Overflow) (filler : String) : String :=
  match overflow with
  | unstated => ""
  | error => " ON OVERFLOW ERROR"
  | truncate withCount =>
    " ON OVERFLOW TRUNCATE" ++ filler ++ (if withCount then " WITH" else " WITHOUT") ++ " COUNT"

/-- A condition and its result in a case distinction. -/
def caseBranch (condition result : String) : String :=
  " WHEN " ++ condition ++ " THEN " ++ result

mutual

/-- The canonical text of an expression. -/
def Expr.sql : Expr → String
  | .name name => name.sql
  | .compound parts => QualifiedName.sql parts
  | .literal value => value.sql
  | .introduced characterSet value => characterSet ++ " " ++ value.sql
  | .typed type value => type.sql ++ " " ++ quoteText '\'' value
  | .nested inner => "(" ++ inner.sql ++ ")"
  | .tuple items => "(" ++ commaJoined (Expr.sqls items) ++ ")"
  | .array named items => onlyIf named "ARRAY" ++ "[" ++ commaJoined (Expr.sqls items) ++ "]"
  | .unary .trailingFactorial operand => operand.sql ++ "!"
  | .unary .not operand => "NOT " ++ operand.sql
  | .unary operator operand => operator.sql ++ operand.sql
  | .binary left operator right => left.sql ++ operator.between ++ right.sql
  | .quantified left operator all right =>
    left.sql ++ " " ++ operator.sql ++ (if all then " ALL(" else " ANY(") ++ right.sql ++ ")"
  | .test operand negated test => operand.sql ++ test.sql negated
  | .distinctFrom left negated right =>
    left.sql ++ " IS " ++ onlyIf negated "NOT " ++ "DISTINCT FROM " ++ right.sql
  | .inList operand negated items =>
    operand.sql ++ onlyIf negated " NOT" ++ " IN (" ++ commaJoined (Expr.sqls items) ++ ")"
  | .inQuery operand negated query =>
    operand.sql ++ onlyIf negated " NOT" ++ " IN (" ++ query.sql ++ ")"
  | .inUnnest operand negated list =>
    operand.sql ++ onlyIf negated " NOT" ++ " IN UNNEST(" ++ list.sql ++ ")"
  | .between operand negated low high =>
    operand.sql ++ onlyIf negated " NOT" ++ " BETWEEN " ++ low.sql ++ " AND " ++ high.sql
  | .matching operand negated kind pattern escape =>
    operand.sql ++ onlyIf negated " NOT" ++ " " ++ kind.sql ++ " " ++ pattern.sql ++
      optionClause " ESCAPE " (escape.map fun c => "'" ++ String.singleton c ++ "'")
  | .cast kind operand type format =>
    kind.sql ++ "(" ++ operand.sql ++ " AS " ++ type.sql ++
      optionClause " FORMAT " (format.map fun (value, zone) =>
        value.sql ++ optionClause " AT TIME ZONE " (zone.map Literal.sql)) ++ ")"
  | .extract field operand => "EXTRACT(" ++ field ++ " FROM " ++ operand.sql ++ ")"
  | .round up operand field =>
    (if up then "CEIL(" else "FLOOR(") ++ operand.sql ++ optionClause " TO " field ++ ")"
  | .position needle haystack => "POSITION(" ++ needle.sql ++ " IN " ++ haystack.sql ++ ")"
  | .substring operand start length =>
    "SUBSTRING(" ++ operand.sql ++ Expr.clause " FROM " start ++ Expr.clause " FOR " length ++ ")"
  | .overlay operand replacement start length =>
    "OVERLAY(" ++ operand.sql ++ " PLACING " ++ replacement.sql ++ " FROM " ++ start.sql ++
      Expr.clause " FOR " length ++ ")"
  | .trim side removed operand characters =>
    "TRIM(" ++ optionClause "" (side.map fun side => side.sql ++ " ") ++
      Expr.leadClause removed " FROM " ++ operand.sql ++
      listClause ", " (Expr.sqls characters) ++ ")"
  | .collate operand collation => operand.sql ++ " COLLATE " ++ QualifiedName.sql collation
  | .case operand conditions results otherwise =>
    "CASE" ++ Expr.clause " " operand ++
      "".intercalate (List.zipWith caseBranch (Expr.sqls conditions) (Expr.sqls results)) ++
      Expr.clause " ELSE " otherwise ++ " END"
  | .exists negated query => onlyIf negated "NOT " ++ "EXISTS (" ++ query.sql ++ ")"
  | .query query => "(" ++ query.sql ++ ")"
  | .arrayQuery query => "ARRAY(" ++ query.sql ++ ")"
  | .call name bare distinct arguments order filter nulls window =>
    if bare then QualifiedName.sql name
    else
      QualifiedName.sql name ++ "(" ++ onlyIf distinct "DISTINCT " ++
        commaJoined (Expr.sqls arguments) ++ listClause " ORDER BY " (OrderItem.sqls order) ++
        ")" ++ Expr.filterClause filter ++ optionClause " " (nulls.map NullTreatment.sql) ++
        Window.overClause window
  | .argument name value => name.sql ++ " => " ++ value.sql
  | .filtered operand condition => operand.sql ++ " FILTER (WHERE " ++ condition.sql ++ ")"
  | .arrayAggregate distinct operand order limit =>
    "ARRAY_AGG(" ++ onlyIf distinct "DISTINCT " ++ operand.sql ++
      listClause " ORDER BY " (OrderItem.sqls order) ++ Expr.clause " LIMIT " limit ++ ")"
  | .listAggregate distinct operand separator overflow filler order =>
    let ordered := commaJoined (OrderItem.sqls order)
    "LISTAGG(" ++ onlyIf distinct "DISTINCT " ++ operand.sql ++ Expr.clause ", " separator ++
      overflow.sql (Expr.clause " " filler) ++ ")" ++
      onlyIf (!order.isEmpty) (" WITHIN GROUP (ORDER BY " ++ ordered ++ ")")
  | .interval value leading leadingPrecision last fractionPrecision =>
    intervalSql value.sql leading leadingPrecision last fractionPrecision
  | .grouping .sets sets => "GROUPING SETS (" ++ commaJoined (Expr.sqls sets) ++ ")"
  | .grouping .cube sets => "CUBE (" ++ commaJoined (Expr.setSqls sets) ++ ")"
  | .grouping .rollup sets => "ROLLUP (" ++ commaJoined (Expr.setSqls sets) ++ ")"
  | .index operand indexes =>
    operand.sql ++ "".intercalate ((Expr.sqls indexes).map fun index => "[" ++ index ++ "]")
  | .lookup operand keys => operand.sql ++ "".intercalate (Expr.keySqls keys)
  | .field operand name => operand.sql ++ "." ++ name.sql
  | .atTimeZone operand zone => operand.sql ++ " AT TIME ZONE '" ++ zone ++ "'"
  | .searchText columns value mode =>
    "MATCH (" ++ identList columns ++ ") AGAINST (" ++ value.sql ++ optionClause " " mode ++ ")"
  | .record fields values =>
    "STRUCT" ++ onlyIf (!fields.isEmpty)
        ("<" ++ commaJoined (DataType.fieldsSql fields) ++ ">") ++
      "(" ++ commaJoined (Expr.sqls values) ++ ")"
  | .labelled operand asKeyword name =>
    operand.sql ++ (if asKeyword then " AS " else " ") ++ name.sql
  | .wildcard => "*"
  | .qualifiedWildcard name => QualifiedName.sql name ++ ".*"

/-- The canonical texts of several expressions. -/
def Expr.sqls : List Expr → List String
  | [] => []
  | e :: rest => e.sql :: Expr.sqls rest

/-- The canonical texts of sets to group by; a set of one expression needs no parentheses. -/
def Expr.setSqls : List Expr → List String
  | [] => []
  | .tuple [e] :: rest => e.sql :: Expr.setSqls rest
  | e :: rest => e.sql :: Expr.setSqls rest

/-- The canonical texts of the keys of a map in brackets. -/
def Expr.keySqls : List Expr → List String
  | [] => []
  | .literal (.quoted .single key) :: rest => ("[\"" ++ key ++ "\"]") :: Expr.keySqls rest
  | e :: rest => ("[" ++ e.sql ++ "]") :: Expr.keySqls rest

/-- An optional expression after an introduction. -/
def Expr.clause (introduction : String) : Option Expr → String
  | none => ""
  | some e => introduction ++ e.sql

/-- An optional expression before a conclusion. -/
def Expr.leadClause : Option Expr → String → String
  | none, _ => ""
  | some e, conclusion => e.sql ++ conclusion

/-- An optional condition on the rows that an aggregate takes. -/
def Expr.filterClause : Option Expr → String
  | none => ""
  | some e => " FILTER (WHERE " ++ e.sql ++ ")"

/-- The canonical text of an expression to sort by. -/
def OrderItem.sql : OrderItem → String
  | ⟨key, ascending, nullsFirst⟩ =>
    key.sql ++
      (match ascending with
        | some true => " ASC"
        | some false => " DESC"
        | none => "") ++
      (match nullsFirst with
        | some true => " NULLS FIRST"
        | some false => " NULLS LAST"
        | none => "")

/-- The canonical texts of several expressions to sort by. -/
def OrderItem.sqls : List OrderItem → List String
  | [] => []
  | item :: rest => item.sql :: OrderItem.sqls rest

/-- The canonical text of a window. -/
def Window.sql : Window → String
  | .named name => name.sql
  | .spec partition order units start finish =>
    let parts :=
      [listClause "PARTITION BY " (Expr.sqls partition),
        listClause "ORDER BY " (OrderItem.sqls order),
        match units, finish with
        | none, _ => ""
        | some units, .unstated => units.sql ++ " " ++ start.sql
        | some units, _ => units.sql ++ " BETWEEN " ++ start.sql ++ " AND " ++ finish.sql]
    "(" ++ " ".intercalate (parts.filter (!·.isEmpty)) ++ ")"

/-- The canonical texts of several windows. -/
def Window.sqls : List Window → List String
  | [] => []
  | window :: rest => window.sql :: Window.sqls rest

/-- The window of a call. -/
def Window.overClause : Option Window → String
  | none => ""
  | some window => " OVER " ++ window.sql

/-- The canonical text of an end of a frame. -/
def Bound.sql : Bound → String
  | .unstated => ""
  | .currentRow => "CURRENT ROW"
  | .preceding none => "UNBOUNDED PRECEDING"
  | .preceding (some distance) => distance.sql ++ " PRECEDING"
  | .following none => "UNBOUNDED FOLLOWING"
  | .following (some distance) => distance.sql ++ " FOLLOWING"

/-- The canonical text of a query. -/
def Query.sql : Query → String
  | ⟨recursive, definitions, body, order, limit, limitBy, offset, unit, fetch, locks⟩ =>
    onlyIf (!definitions.isEmpty)
        ("WITH " ++ onlyIf recursive "RECURSIVE " ++
          commaJoined (Definition.sqls definitions) ++ " ") ++
      body.sql ++ listClause " ORDER BY " (OrderItem.sqls order) ++ Expr.clause " LIMIT " limit ++
      Expr.clause " OFFSET " offset ++ onlyIf offset.isSome unit.sql ++
      listClause " BY " (Expr.sqls limitBy) ++ optionClause " " (fetch.map Fetch.sql) ++
      "".intercalate (locks.map fun lock => " " ++ lock.sql)

/-- The canonical text of a defined table. -/
def Definition.sql : Definition → String
  | ⟨label, query, origin⟩ =>
    label.sql ++ " AS (" ++ query.sql ++ ")" ++ optionClause " FROM " (origin.map Ident.sql)

/-- The canonical texts of several defined tables. -/
def Definition.sqls : List Definition → List String
  | [] => []
  | definition :: rest => definition.sql :: Definition.sqls rest

/-- The canonical text of a body. -/
def Body.sql : Body → String
  | .select selection => selection.sql
  | .query query => "(" ++ query.sql ++ ")"
  | .operation operator quantifier left right =>
    left.sql ++ " " ++ operator.sql ++ quantifier.sql ++ " " ++ right.sql
  | .values rowKeyword rows =>
    "VALUES " ++ commaJoined ((Expr.sqls rows).map (onlyIf rowKeyword "ROW" ++ ·))
  | .table schema name => "TABLE " ++ optionClause "" (schema.map (· ++ ".")) ++ name
  | .insert text => text
  | .update text => text

/-- The canonical text of a selection. -/
def Select.sql : Select → String
  | ⟨distinctness, distinctOn, top, topPercent, topTies, items, target, sources, views, condition,
      groupAll, groupBy, clusterBy, distributeBy, sortBy, having, windowNames, windows, qualify⟩ =>
    "SELECT" ++
      (match distinctness with
        | .all => ""
        | .distinct => " DISTINCT"
        | .on => " DISTINCT ON (" ++ commaJoined (Expr.sqls distinctOn) ++ ")") ++
      (match top with
        | none => ""
        | some quantity =>
          " TOP (" ++ quantity.sql ++ ")" ++ onlyIf topPercent " PERCENT" ++
            onlyIf topTies " WITH TIES") ++
      " " ++ commaJoined (SelectItem.sqls items) ++
      optionClause " " (target.map Target.sql) ++ listClause " FROM " (Source.sqls sources) ++
      "".intercalate (Source.sqls views) ++ Expr.clause " WHERE " condition ++
      (if groupAll then " GROUP BY ALL" else listClause " GROUP BY " (Expr.sqls groupBy)) ++
      listClause " CLUSTER BY " (Expr.sqls clusterBy) ++
      listClause " DISTRIBUTE BY " (Expr.sqls distributeBy) ++
      listClause " SORT BY " (Expr.sqls sortBy) ++ Expr.clause " HAVING " having ++
      listClause " WINDOW " (List.zipWith (fun name window => name.sql ++ " AS " ++ window)
        windowNames (Window.sqls windows)) ++
      Expr.clause " QUALIFY " qualify

/-- The canonical text of a selected column. -/
def SelectItem.sql : SelectItem → String
  | .expression value => value.sql
  | .aliased value label => value.sql ++ " AS " ++ label.sql
  | .wildcard table exclude except rename replace =>
    optionClause "" (table.map (QualifiedName.sql · ++ ".")) ++ "*" ++
      optionClause " " (exclude.map Exclusion.sql) ++
      onlyIf (!except.isEmpty) (" EXCEPT (" ++ identList except ++ ")") ++
      optionClause " " (rename.map Renaming.sql) ++
      onlyIf (!replace.isEmpty) (" REPLACE (" ++ commaJoined (Expr.sqls replace) ++ ")")

/-- The canonical texts of several selected columns. -/
def SelectItem.sqls : List SelectItem → List String
  | [] => []
  | item :: rest => item.sql :: SelectItem.sqls rest

/-- The canonical text of a table and the tables joined to it. -/
def Source.sql : Source → String
  | ⟨relation, joins⟩ => relation.sql ++ "".intercalate (Join.sqls joins)

/-- The canonical texts of several tables. -/
def Source.sqls : List Source → List String
  | [] => []
  | source :: rest => source.sql :: Source.sqls rest

/-- The canonical text of a joined table. -/
def Join.sql : Join → String
  | ⟨kind, relation, natural, condition, columns⟩ =>
    " " ++ onlyIf natural "NATURAL " ++ kind.sql ++ " " ++ relation.sql ++
      Expr.clause " ON " condition ++
      onlyIf (!columns.isEmpty) (" USING(" ++ identList columns ++ ")")

/-- The canonical texts of several joined tables. -/
def Join.sqls : List Join → List String
  | [] => []
  | join :: rest => join.sql :: Join.sqls rest

/-- The canonical text of something that rows are read from. -/
def Relation.sql : Relation → String
  | .table name partitions called arguments label hints =>
    QualifiedName.sql name ++
      onlyIf (!partitions.isEmpty) ("PARTITION (" ++ identList partitions ++ ")") ++
      onlyIf called ("(" ++ commaJoined (Expr.sqls arguments) ++ ")") ++ aliasSql label ++
      onlyIf (!hints.isEmpty) (" WITH (" ++ commaJoined (Expr.sqls hints) ++ ")")
  | .derived lateral query label =>
    onlyIf lateral "LATERAL " ++ "(" ++ query.sql ++ ")" ++ aliasSql label
  | .function name arguments label =>
    "LATERAL " ++ QualifiedName.sql name ++ "(" ++ commaJoined (Expr.sqls arguments) ++ ")" ++
      aliasSql label
  | .expression value label => "TABLE(" ++ value.sql ++ ")" ++ aliasSql label
  | .unnest arrays label withOffset offsetAlias =>
    "UNNEST(" ++ commaJoined (Expr.sqls arrays) ++ ")" ++ aliasSql label ++
      onlyIf withOffset " WITH OFFSET" ++ optionClause " AS " (offsetAlias.map Ident.sql)
  | .nested source label => "(" ++ source.sql ++ ")" ++ aliasSql label
  | .pivot relation aggregate column values label =>
    relation.sql ++ " PIVOT(" ++ aggregate.sql ++ " FOR " ++ QualifiedName.sql column ++ " IN (" ++
      commaJoined (values.map Literal.sql) ++ "))" ++ aliasSql label
  | .unpivot relation value name columns label =>
    relation.sql ++ " UNPIVOT(" ++ value.sql ++ " FOR " ++ name.sql ++ " IN (" ++
      identList columns ++ "))" ++ aliasSql label
  | .view outer value name columns =>
    " LATERAL VIEW" ++ onlyIf outer " OUTER" ++ " " ++ value.sql ++ " " ++
      QualifiedName.sql name ++ onlyIf (!columns.isEmpty) (" AS " ++ identList columns)

end

end Querent.Sql

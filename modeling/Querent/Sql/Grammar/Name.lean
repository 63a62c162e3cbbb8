import Querent.Sql.Grammar.Basic

/-!
# Names, values and types

The rules for the parts of a query that hold no expressions: names and lists of names, second names,
values written out, and types.
-/

namespace Querent.Sql.Parser

/-- A name: a word or text in quotes. -/
def ident : Parser Ident := do
  let found ← next
  match tokenOf found with
  | some (.word w) => return w.ident
  | some (.quoted .single value) => return ⟨value, some '\''⟩
  | some (.quoted .double value) => return ⟨value, some '"'⟩
  | _ => expectedAt "identifier" found

/-- At most so many names with periods between them. -/
def qualifiedNameUpTo : Nat → Parser QualifiedName
  | 0 => return []
  | n + 1 => do
    let first ← ident
    if ← symbol .period then
      return first :: (← qualifiedNameUpTo n)
    else return [first]

/-- A qualified name. -/
def qualifiedName : Parser QualifiedName := do
  qualifiedNameUpTo ((← get).length + 1)

/-- The words up to an equals sign or the end; all else on the way is passed over. -/
def wordsUpToEqual : Nat → Parser (List Ident)
  | 0 => return []
  | n + 1 => do
    match tokenOf (← peek) with
    | none => return []
    | some (.symbol .equal) => return []
    | some (.word w) =>
      discard next
      return w.ident :: (← wordsUpToEqual n)
    | some _ =>
      discard next
      wordsUpToEqual n

/-- The words up to an equals sign or the end. -/
def wordsToEqual : Parser (List Ident) := do
  wordsUpToEqual ((← get).length + 1)

/-- Names of columns in parentheses, which may be left out. -/
def optionalColumns : Parser (List Ident) := do
  if ← symbol .openParen then
    let columns ← commaSeparated ident
    expectSymbol .closeParen
    return columns
  else return []

/-- Names of columns in parentheses. -/
def columns : Parser (List Ident) := do
  if ← symbol .openParen then
    let columns ← commaSeparated ident
    expectSymbol .closeParen
    return columns
  else expected "a list of columns in parentheses"

/-- A second name; without `AS`, words of the given list are none. -/
def optionalAlias (ending : List Keyword) : Parser (Option Ident) := do
  let afterAs ← keyword "AS"
  let named (name : Ident) : Parser (Option Ident) := do
    discard next
    return some name
  let absent : Parser (Option Ident) :=
    if afterAs then expected "an identifier after AS" else return none
  match tokenOf (← peek) with
  | some (.word w) =>
    if afterAs || !(w.keyword.any ending.contains) then named w.ident else absent
  | some (.quoted .single value) => named ⟨value, some '\''⟩
  | some (.quoted .double value) => named ⟨value, some '"'⟩
  | _ => absent

/-- A second name of a table, with names for its columns. -/
def optionalTableAlias : Parser (Option TableAlias) := do
  match ← optionalAlias Keyword.endingTable with
  | some name => return some ⟨name, ← optionalColumns⟩
  | none => return none

/-- The largest number that a length or precision may be. -/
def largestSize : Nat := 18446744073709551615

/-- The number that decimal digits stand for. -/
def numberOfDigits (digits : List Char) : Nat :=
  digits.foldl (fun n c => n * 10 + Text.digitValue c) 0

/-- A whole number. -/
def wholeNumber : Parser Nat := do
  let found ← next
  match tokenOf found with
  | some (.number digits _) =>
    if digits.toList.all Text.isAsciiDigit then
      let n := numberOfDigits digits.toList
      if n ≤ largestSize then return n
      else throw (.badNumber digits "number too large to fit in target type" found)
    else throw (.badNumber digits "invalid digit found in string" found)
  | _ => expectedAt "literal int" found

/-- A text. -/
def literalText : Parser String := do
  let found ← next
  let dialect ← dialect
  match tokenOf found with
  | some (.word ⟨text, _, none⟩) => return text
  | some (.quoted .single value) => return value
  | some (.quoted .double value) => return value
  | some (.quoted .escaped value) =>
    if dialect = .postgres || dialect = .generic then return value
    else expectedAt "literal string" found
  | _ => expectedAt "literal string" found

/-- How text is shown between double quotes in an error message. -/
def shownText (text : String) : String :=
  let escape : Char → List Char
    | '"' => ['\\', '"']
    | '\\' => ['\\', '\\']
    | '\n' => ['\\', 'n']
    | '\r' => ['\\', 'r']
    | '\t' => ['\\', 't']
    | c => [c]
  "\"" ++ String.ofList (text.toList.flatMap escape) ++ "\""

/-- A text of a single character of one byte. -/
def literalChar : Parser Char := do
  let found ← peek
  let text ← literalText
  match text.toList with
  | [c] =>
    if c.toNat < 0x80 then return c
    else throw (.refused ("Expect a char, found " ++ shownText text) found)
  | _ => throw (.refused ("Expect a char, found " ++ shownText text) found)

/-- The name of a placeholder after the sign that introduces it. -/
def placeholderName (sign : Symbol) : Parser Literal := do
  let found ← next
  match tokenOf found with
  | some (.word w) => return .placeholder (sign.text ++ w.text)
  | some (.number digits false) => return .placeholder (sign.text ++ digits)
  | _ => expectedAt "placeholder" found

/-- A word in the place of a value. -/
def wordValue (w : Word) (found : Option Located) : Parser Literal := do
  let dialect ← dialect
  match w.keyword, w.quote with
  | some "TRUE", _ => return .boolean true
  | some "FALSE", _ => return .boolean false
  | some "NULL", _ => return .null
  | none, some '"' => return .quoted .double w.text
  | none, some '\'' => return .quoted .single w.text
  | none, some _ => expectedAt "A value?" found
  | none, none =>
    if dialect = .generic then return .bare w.text else expectedAt "a concrete value" found
  | some word, _ =>
    if dialect = .generic && ["LOCATION", "TYPE", "DATE"].contains word then
      return .bare w.text
    else expectedAt "a concrete value" found

/-- A value written out. -/
def literal : Parser Literal := do
  let found ← next
  match tokenOf found with
  | some (.word w) => wordValue w found
  | some (.number digits long) => return .number digits long
  | some (.quoted form value) => return .quoted form value
  | some (.dollarQuoted tag value) => return .dollarQuoted tag value
  | some (.placeholder name) => return .placeholder name
  | some (.symbol .colon) => placeholderName .colon
  | some (.symbol .atSign) => placeholderName .atSign
  | _ => expectedAt "a value" found

/-- A number or a placeholder. -/
def numberValue : Parser Literal := do
  let found ← peek
  match ← literal with
  | .number digits long => return .number digits long
  | .placeholder name => return .placeholder name
  | _ => expectedAt "literal number" found

/-- A precision in parentheses, which may be left out. -/
def optionalSize : Parser (Option Nat) := do
  if ← symbol .openParen then
    let n ← wholeNumber
    expectSymbol .closeParen
    return some n
  else return none

/-- A precision and a scale in parentheses, of which both or the scale may be left out. -/
def optionalPrecisionScale : Parser (Option Nat × Option Nat) := do
  if ← symbol .openParen then
    let precision ← wholeNumber
    let scale ← if ← symbol .comma then some <$> wholeNumber else pure none
    expectSymbol .closeParen
    return (some precision, scale)
  else return (none, none)

/-- A length in parentheses with its unit. -/
def optionalLength : Parser (Option Nat × Option String) := do
  if ← symbol .openParen then
    let length ← wholeNumber
    let unit ← oneOf ["CHARACTERS", "OCTETS"]
    expectSymbol .closeParen
    return (some length, unit)
  else return (none, none)

/-- A relation to time zones after the name of a type. -/
def zone : Parser Zone := do
  if ← keyword "WITH" then
    expectKeywords ["TIME", "ZONE"]
    return .withZone
  else if ← keyword "WITHOUT" then
    expectKeywords ["TIME", "ZONE"]
    return .withoutZone
  else return .unstated

/-- At most so many texts up to the closing parenthesis. -/
def memberTextsUpTo : Nat → Parser (List String)
  | 0 => return []
  | n + 1 => do
    let found ← next
    match tokenOf found with
    | some (.quoted .single value) =>
      let separator ← next
      match tokenOf separator with
      | some (.symbol .comma) => return value :: (← memberTextsUpTo n)
      | some (.symbol .closeParen) => return [value]
      | _ => expectedAt ", or \x7d" separator
    | _ => expectedAt "a string" found

/-- The members of an enumeration in parentheses. -/
def memberTexts : Parser (List String) := do
  expectSymbol .openParen
  memberTextsUpTo ((← get).length + 1)

/-- At most so many modifiers up to the closing parenthesis. -/
def modifiersUpTo : Nat → Parser (List String)
  | 0 => return []
  | n + 1 => do
    let found ← next
    match tokenOf found with
    | some (.word w) => return (Token.word w).text :: (← modifiersUpTo n)
    | some (.number digits _) => return digits :: (← modifiersUpTo n)
    | some (.quoted .single value) => return value :: (← modifiersUpTo n)
    | some (.symbol .comma) => modifiersUpTo n
    | some (.symbol .closeParen) => return []
    | _ => expectedAt "type modifiers" found

/-- The modifiers of a type in parentheses, which may be left out. -/
def optionalModifiers : Parser (List String) := do
  if ← symbol .openParen then modifiersUpTo ((← get).length + 1) else return []

/-- The names of types that take nothing after them. -/
def plainTypes : List Keyword :=
  ["BOOLEAN", "REAL", "FLOAT4", "FLOAT64", "FLOAT8", "INT64", "UUID", "DATE", "INTERVAL", "JSON",
    "REGCLASS", "TEXT", "BYTEA"]

/-- The names of types that may take a size. -/
def sizedTypes : List Keyword :=
  ["FLOAT", "NVARCHAR", "CLOB", "BINARY", "VARBINARY", "BLOB", "BYTES", "DATETIME", "STRING"]

/-- The names of types of whole numbers. -/
def integerTypes : List Keyword :=
  ["TINYINT", "INT2", "SMALLINT", "MEDIUMINT", "INT", "INT4", "INTEGER", "BIGINT", "INT8"]

/-- The names of types of decimal numbers. -/
def decimalTypes : List Keyword :=
  ["NUMERIC", "DECIMAL", "DEC", "BIGNUMERIC", "BIGDECIMAL"]

/-- A type of texts whose first word was read. -/
def characterType (name : String) : Parser DataType := do
  if ← keyword "VARYING" then
    let (length, unit) ← optionalLength
    return .characters (name ++ " VARYING") length unit
  else if ← keywords ["LARGE", "OBJECT"] then
    return .sized (name ++ " LARGE OBJECT") (← optionalSize)
  else
    let (length, unit) ← optionalLength
    return .characters name length unit

/-- The bracket that closes a type, given whether one inside it closed this one too. -/
def closeAngle (closed : Bool) : Parser Bool := do
  if closed then return false
  else if ← symbol .greater then return false
  else if ← symbol .shiftRight then return true
  else expected ">"

/-- A type that is known by its first word. -/
def knownType (word : Keyword) : Parser (Option DataType) := do
  if plainTypes.contains word then return some (.plain word)
  else if sizedTypes.contains word then return some (.sized word (← optionalSize))
  else if integerTypes.contains word then
    let width ← optionalSize
    return some (.integer word width (← keyword "UNSIGNED"))
  else if decimalTypes.contains word then
    let (precision, scale) ← optionalPrecisionScale
    return some (.decimal word precision scale)
  else
    match word with
    | "DOUBLE" =>
      return some (.plain (if ← keyword "PRECISION" then "DOUBLE PRECISION" else "DOUBLE"))
    | "VARCHAR" =>
      let (length, unit) ← optionalLength
      return some (.characters "VARCHAR" length unit)
    | "CHARACTER" => some <$> characterType "CHARACTER"
    | "CHAR" => some <$> characterType "CHAR"
    | "TIMESTAMP" => do
      let precision ← optionalSize
      return some (.temporal "TIMESTAMP" precision (← zone))
    | "TIMESTAMPTZ" => return some (.temporal "TIMESTAMP" (← optionalSize) .short)
    | "TIME" => do
      let precision ← optionalSize
      return some (.temporal "TIME" precision (← zone))
    | "TIMETZ" => return some (.temporal "TIME" (← optionalSize) .short)
    | "ENUM" => return some (.members "ENUM" (← memberTexts))
    | "SET" => return some (.members "SET" (← memberTexts))
    | _ => return none

/-- At most so many pairs of brackets after the type of the elements of an array. -/
def arraySuffixUpTo : Nat → DataType → Parser DataType
  | 0, element => return element
  | n + 1, element => do
    if ← symbol .openBracket then
      expectSymbol .closeBracket
      arraySuffixUpTo n (.arrayOf element)
    else return element

/-- A type, and whether the bracket that closes the type around it was read with it. -/
def typeRule (grammar : Grammar) : Parser (DataType × Bool) := do
  let start ← get
  let found ← next
  let (element, closed) ← match tokenOf found with
    | some (.word w) => do
      let known ← match w.keyword with
        | some word => knownType word
        | none => pure none
      match known, w.keyword with
      | some type, _ => pure (type, false)
      | none, some "ARRAY" => do
        expectSymbol .less
        let (inner, closed) ← grammar.type
        pure (.angledArray inner, ← closeAngle closed)
      | none, _ => do
        set start
        let name ← qualifiedName
        pure (.custom name (← optionalModifiers), false)
    | _ => expectedAt "a data type name" found
  let type ← arraySuffixUpTo ((← get).length + 1) element
  return (type, closed)

/-- A type with no bracket left over. -/
def dataType (grammar : Grammar) : Parser DataType := do
  let (type, closed) ← grammar.type
  if closed then
    let found := (tokenOf (← peek)).map Token.text
    throw (.refused
      ("unmatched > after parsing data type " ++ type.sql ++ found.getD "EOF") none)
  else return type

/-- The parts of a moment that can be taken out of it. -/
def timeFields : List Keyword :=
  ["YEAR", "MONTH", "WEEK", "DAY", "DAYOFWEEK", "DAYOFYEAR", "DATE", "HOUR", "MINUTE", "SECOND",
    "CENTURY", "DECADE", "DOY", "DOW", "EPOCH", "ISODOW", "ISOYEAR", "ISOWEEK", "JULIAN",
    "MICROSECOND", "MICROSECONDS", "MILLENIUM", "MILLENNIUM", "MILLISECOND", "MILLISECONDS",
    "NANOSECOND", "NANOSECONDS", "QUARTER", "TIME", "TIMEZONE", "TIMEZONE_HOUR",
    "TIMEZONE_MINUTE"]

/-- The parts of a moment that an interval can be measured in. -/
def intervalFields : List Keyword :=
  timeFields.filter fun field =>
    !(["DAYOFWEEK", "DAYOFYEAR", "DATE", "ISOWEEK", "TIME"].contains field)

/-- A part of a moment. -/
def timeField : Parser Keyword := do
  let found ← next
  match found.bind (·.token.keyword?) with
  | some word => if timeFields.contains word then return word else expectedAt "date/time field" found
  | none => expectedAt "date/time field" found

end Querent.Sql.Parser

import Querent.Sql.Keyword

/-!
# Tokens

The smallest parts of a query that carry meaning.  Blanks and comments separate tokens and are no
tokens themselves.  A token has a text of its own, `Token.text`, which error messages show.
-/

namespace Querent.Sql

/-- A place in a query: the line and the column of a character, both counted from one. -/
structure Position where
  line : Nat
  column : Nat
  deriving DecidableEq, Repr, Inhabited

namespace Position

/-- The place of the first character. -/
def start : Position := ⟨1, 1⟩

/-- The place after a character. -/
def next (position : Position) (c : Char) : Position :=
  if c == '\n' then ⟨position.line + 1, 1⟩ else ⟨position.line, position.column + 1⟩

/-- How a place is named at the end of an error message. -/
def text (position : Position) : String :=
  s!" at Line: {position.line}, Column {position.column}"

end Position

/-- Punctuation and operators. -/
inductive Symbol where
  | comma | period | semicolon | openParen | closeParen | openBracket | closeBracket | openBrace
  | closeBrace | colon | doubleColon | assign | equal | doubleEqual | notEqual | less | greater
  | lessEqual | greaterEqual | spaceship | plus | minus | times | divide | integerDivide | modulo
  | concat | pipe | ampersand | doubleAmpersand | caret | sharp | tilde | tildeStar | notTilde
  | notTildeStar | shiftLeft | shiftRight | exclamation | doubleExclamation | atSign | squareRoot
  | cubeRoot | fatArrow | arrow | longArrow | hashArrow | hashLongArrow | atArrow | arrowAt
  | hashMinus | atQuestion | doubleAt | backslash
  deriving DecidableEq, Repr

namespace Symbol

/-- How a symbol is written. -/
def text : Symbol → String
  | comma => ","
  | period => "."
  | semicolon => ";"
  | openParen => "("
  | closeParen => ")"
  | openBracket => "["
  | closeBracket => "]"
  | openBrace => "\x7b"
  | closeBrace => "\x7d"
  | colon => ":"
  | doubleColon => "::"
  | assign => ":="
  | equal => "="
  | doubleEqual => "=="
  | notEqual => "<>"
  | less => "<"
  | greater => ">"
  | lessEqual => "<="
  | greaterEqual => ">="
  | spaceship => "<=>"
  | plus => "+"
  | minus => "-"
  | times => "*"
  | divide => "/"
  | integerDivide => "//"
  | modulo => "%"
  | concat => "||"
  | pipe => "|"
  | ampersand => "&"
  | doubleAmpersand => "&&"
  | caret => "^"
  | sharp => "#"
  | tilde => "~"
  | tildeStar => "~*"
  | notTilde => "!~"
  | notTildeStar => "!~*"
  | shiftLeft => "<<"
  | shiftRight => ">>"
  | exclamation => "!"
  | doubleExclamation => "!!"
  | atSign => "@"
  | squareRoot => "|/"
  | cubeRoot => "||/"
  | fatArrow => "=>"
  | arrow => "->"
  | longArrow => "->>"
  | hashArrow => "#>"
  | hashLongArrow => "#>>"
  | atArrow => "@>"
  | arrowAt => "<@"
  | hashMinus => "#-"
  | atQuestion => "@?"
  | doubleAt => "@@"
  | backslash => "\\"

end Symbol

/-- A name or keyword, with the character that opened its quotes if it was quoted. -/
structure Word where
  text : String
  quote : Option Char
  keyword : Option Keyword
  deriving DecidableEq, Repr

namespace Word

/-- An unquoted word, which may spell a keyword. -/
def plain (letters : List Char) : Word :=
  ⟨String.ofList letters, none, Keyword.ofSpelling? letters⟩

/-- A quoted word, which is never a keyword. -/
def quoted (quote : Char) (letters : List Char) : Word :=
  ⟨String.ofList letters, some quote, none⟩

end Word

/-- The character that closes a quoted name. -/
def closingQuote (quote : Char) : Char :=
  if quote == '[' then ']' else quote

/-- The forms of quoted text. -/
inductive QuotedForm where
  /-- Text in single quotes. -/
  | single
  /-- Text in double quotes, where these do not quote names. -/
  | double
  /-- Text in the national character set. -/
  | national
  /-- Text with backslash escapes. -/
  | escaped
  /-- Bytes in hexadecimal digits. -/
  | hex
  /-- Bytes in single quotes. -/
  | bytes
  /-- Bytes in double quotes. -/
  | doubleBytes
  /-- Text without escapes. -/
  | raw
  deriving DecidableEq, Repr

/-- The letter before the opening quote and the quote itself. -/
def QuotedForm.opening : QuotedForm → String × String
  | single => ("", "'")
  | double => ("", "\"")
  | national => ("N", "'")
  | escaped => ("E", "'")
  | hex => ("X", "'")
  | bytes => ("B", "'")
  | doubleBytes => ("B", "\"")
  | raw => ("R", "'")

/-- A token of a query. -/
inductive Token where
  | word (word : Word)
  /-- A number as it was written, and whether the suffix for long integers follows it. -/
  | number (digits : String) (long : Bool)
  | quoted (form : QuotedForm) (value : String)
  /-- Text between dollar signs, with the tag between them if there is one. -/
  | dollarQuoted (tag : Option String) (value : String)
  /-- The place of a value that is supplied later. -/
  | placeholder (name : String)
  | symbol (symbol : Symbol)
  /-- A character that belongs to no other token. -/
  | stray (c : Char)
  deriving DecidableEq, Repr

/-- How text between dollar signs is written. -/
def dollarQuotedText (tag : Option String) (value : String) : String :=
  let mark := "$" ++ tag.getD "" ++ "$"
  mark ++ value ++ mark

/-- How a number is written. -/
def numberText (digits : String) (long : Bool) : String :=
  if long then digits ++ "L" else digits

namespace Token

/-- How an error message shows a token. -/
def text : Token → String
  | word ⟨value, some quote, _⟩ =>
    String.singleton quote ++ value ++ String.singleton (closingQuote quote)
  | word ⟨value, none, _⟩ => value
  | number digits long => numberText digits long
  | quoted form value =>
    let (letter, mark) := form.opening
    letter ++ mark ++ value ++ mark
  | dollarQuoted tag value => dollarQuotedText tag value
  | placeholder name => name
  | .symbol mark => mark.text
  | stray c => String.singleton c

/-- The keyword that a token spells, if it spells one. -/
def keyword? : Token → Option Keyword
  | word w => w.keyword
  | _ => none

/-- Whether a token spells the given keyword. -/
def isKeyword (token : Token) (keyword : Keyword) : Bool :=
  token.keyword? == some keyword

end Token

/-- A token and the place where it starts. -/
structure Located where
  token : Token
  position : Position
  deriving DecidableEq, Repr

/-- The token at a place, if there is a place. -/
def tokenOf (found : Option Located) : Option Token :=
  found.map Located.token

end Querent.Sql

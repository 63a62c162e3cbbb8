/-!
# Faults in the text of a document

What can be wrong with a text that should be a document, and the place where it is wrong.
-/

namespace Querent.Json

/-- A place in a text: a line, counted from one, and the number of bytes before it in its line. -/
structure Place where
  line : Nat
  column : Nat
  deriving DecidableEq, Repr

/-- The place where a text starts. -/
def Place.start : Place := ⟨1, 0⟩

/-- The place after a character. -/
def Place.next (place : Place) (c : Char) : Place :=
  if c == '\n' then ⟨place.line + 1, 0⟩ else ⟨place.line, place.column + c.utf8Size⟩

/-- How a place is named at the end of a message. -/
def Place.text (place : Place) : String :=
  " at line " ++ toString place.line ++ " column " ++ toString place.column

/-- What is wrong with a text. -/
inductive Fault where
  | listEnds
  | objectEnds
  | textEnds
  | valueEnds
  | colonExpected
  | commaOrBracketExpected
  | commaOrBraceExpected
  | wordExpected
  | valueExpected
  | badEscape
  | badNumber
  | numberTooLarge
  | controlCharacter
  | keyExpected
  | loneSurrogate
  | trailingComma
  | trailingCharacters
  | escapeEnds
  | tooDeep
  deriving DecidableEq, Repr

/-- The wording of a fault. -/
def Fault.message : Fault → String
  | listEnds => "EOF while parsing a list"
  | objectEnds => "EOF while parsing an object"
  | textEnds => "EOF while parsing a string"
  | valueEnds => "EOF while parsing a value"
  | colonExpected => "expected \x60:\x60"
  | commaOrBracketExpected => "expected \x60,\x60 or \x60]\x60"
  | commaOrBraceExpected => "expected \x60,\x60 or \x60\x7d\x60"
  | wordExpected => "expected ident"
  | valueExpected => "expected value"
  | badEscape => "invalid escape"
  | badNumber => "invalid number"
  | numberTooLarge => "number out of range"
  | controlCharacter => "control character (\\u0000-\\u001F) found while parsing a string"
  | keyExpected => "key must be a string"
  | loneSurrogate => "lone leading surrogate in hex escape"
  | trailingComma => "trailing comma"
  | trailingCharacters => "trailing characters"
  | escapeEnds => "unexpected end of hex escape"
  | tooDeep => "recursion limit exceeded"

end Querent.Json

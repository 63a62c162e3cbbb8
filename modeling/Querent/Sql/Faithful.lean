import Querent.Sql.Lexer

/-!
# Faithful texts

Printing a query can lose parts of it that no tree holds, such as brackets after a call.  The tokens
that must not be lost are numbers, texts in single quotes and square brackets.  They are written down
one after the other and sorted: a text is a faithful rendering of another when both come to the same
list.
-/

namespace Querent.Sql

/-- A token that must not be lost. -/
inductive Significant where
  | number (digits : String)
  | text (value : String)
  | openBracket
  | closeBracket
  deriving DecidableEq, Repr

/-- How a significant token is written down: a number without its suffix, a text in plain quotes. -/
def Significant.written : Significant → String
  | number digits => digits
  | text value => "'" ++ value ++ "'"
  | openBracket => "["
  | closeBracket => "]"

/-- The significant part of a token, if it has one. -/
def Token.significant? : Token → Option Significant
  | number digits _ => some (.number digits)
  | quoted .single value => some (.text value)
  | .symbol .openBracket => some .openBracket
  | .symbol .closeBracket => some .closeBracket
  | _ => none

/-- The significant tokens of a text, if the text has tokens at all. -/
def significantTokens (dialect : Dialect) (text : String) : Option (List Significant) :=
  match tokens dialect text with
  | .ok tokens => some (tokens.filterMap Token.significant?)
  | .error _ => none

/-- What is written down of significant tokens, in order. -/
def inventory (found : List Significant) : List String :=
  (found.map Significant.written).mergeSort fun a b => a ≤ b

/-- Whether two texts come to the same list of significant tokens. -/
def isFaithful (dialect : Dialect) (source rewritten : String) : Bool :=
  match significantTokens dialect source, significantTokens dialect rewritten with
  | some before, some after => inventory before == inventory after
  | _, _ => false

end Querent.Sql

import Querent.Table.Basic
import Querent.Text.Case
import Querent.Text.Digit

/-!
# Kinds of columns

What a column holds, told from the values that are present in it.  A column is of a kind when at
least four fifths of its values fit the kind; of several kinds that fit, the first in the order
number, date, truth value counts, and a column that fits none of them holds categories.
-/

namespace Querent

/-- What a column holds. -/
inductive ColumnKind where
  | numeric
  | date
  | boolean
  | categorical
  /-- No value is present. -/
  | unknown
  deriving DecidableEq, Repr

namespace ColumnKind

/-- The name of a kind of columns. -/
def name : ColumnKind → String
  | numeric => "numeric"
  | date => "date"
  | boolean => "boolean"
  | categorical => "categorical"
  | unknown => "unknown"

/-- The share of its values that a column of a kind needs to fit the kind. -/
def threshold : Float := 0.8

/-- Whether a cell holds a number. -/
def isNumber (cell : Json) : Bool :=
  (Table.number? cell).isSome

/-- Whether a text starts with a pattern, in which `d` stands for any decimal digit. -/
def startsLike : List Char → List Char → Bool
  | [], _ => true
  | _ :: _, [] => false
  | p :: pattern, c :: text =>
    (if p == 'd' then Text.isDecimalDigit c else p == c) && startsLike pattern text

/-- Whether a text starts with a day in one of the two usual notations. -/
def startsWithDay (text : List Char) : Bool :=
  startsLike "dddd-dd-dd".toList text || startsLike "dd/dd/dddd".toList text

/-- Whether a day stands anywhere in a text. -/
def hasDay : List Char → Bool
  | [] => false
  | c :: rest => startsWithDay (c :: rest) || hasDay rest

/-- Whether a text holds a day, or is a moment as a number of milliseconds. -/
def isDateText (text : List Char) : Bool :=
  hasDay text || (text.length == 13 && text.all Text.isDecimalDigit)

/-- Whether a number may be a moment as a number of seconds or milliseconds. -/
def isMoment (number : Float) : Bool :=
  number > 1000000000 && number < 9999999999999

/-- Whether a cell looks like a date. -/
def isDate : Json → Bool
  | .string text => isDateText text.toList
  | .integer value => isMoment (Float.ofInt value)
  | .float value => isMoment value
  | _ => false

/-- The texts that stand for truth values, in small letters. -/
def truthTexts : List String :=
  ["true", "false", "yes", "no", "0", "1"]

/-- Whether a cell looks like a truth value. -/
def isTruthValue : Json → Bool
  | .bool _ => true
  | .integer value => value == 0 || value == 1
  | .float value => value == 0 || value == 1
  | .string text => truthTexts.contains (String.ofList (Text.lowerAscii (Text.trim text.toList)))
  | _ => false

/-- Whether the cells that fit are a large enough share of all cells. -/
def mostly (fits : Json → Bool) (cells : List Json) : Bool :=
  Float.ofNat (cells.countP fits) / Float.ofNat cells.length ≥ threshold

/-- The kind of a column with the given values. -/
def ofValues (cells : List Json) : ColumnKind :=
  if cells.isEmpty then unknown
  else if mostly isNumber cells then numeric
  else if mostly isDate cells then date
  else if mostly isTruthValue cells then boolean
  else categorical

/-- The kind of a column. -/
def infer (rows : List Row) (column : String) : ColumnKind :=
  ofValues (Table.values rows column)

/-- A column without values is of no known kind. -/
@[simp]
theorem ofValues_nil : ofValues [] = unknown := rfl

end ColumnKind

/-- The kinds of the columns of a table, in their order. -/
def Table.columnKinds (table : Table) : List (String × ColumnKind) :=
  table.columns.map fun column => (column, ColumnKind.infer table.rows column)

end Querent

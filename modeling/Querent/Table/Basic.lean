import Querent.Decimal.Reading
import Querent.Json.Printer
import Querent.Text.Blank
import Querent.Text.Search

/-!
# Tables

The result of a query: the names of its columns and its rows, each a record of cells by column name.
A name may stand for several columns, and a row need not have a cell in every column.  The parts of
the analysis see a column only through the values that are present in it.
-/

namespace Querent

/-- A row: its cells by the name of their column. -/
abbrev Row := Json.Fields

/-- The result of a query. -/
structure Table where
  columns : List String
  rows : List Row

namespace Table

/-- The value of a cell that is present. -/
def present? : Option Json → Option Json
  | none | some .null => none
  | some cell => some cell

/-- The values that are present in a column, in the order of the rows. -/
def values (rows : List Row) (column : String) : List Json :=
  rows.filterMap fun row => present? (Json.lookup row column)

/-- A number written in a text, blanks around it aside. -/
def numberOfText? (text : String) : Option Float :=
  (Decimal.read? (trimmed text)).filter Float.isFinite

/-- The number that a cell holds, be it as a number or in a text. -/
def number? : Json → Option Float
  | .integer value => some (Float.ofInt value)
  | .float value => some value
  | .string text => numberOfText? text
  | _ => none

/-- The numbers in a column, in the order of the rows. -/
def numbers (rows : List Row) (column : String) : List Float :=
  (values rows column).filterMap number?

/-- Whether a column has values and all of them are numbers. -/
def isNumeric (rows : List Row) (column : String) : Bool :=
  let found := values rows column
  !found.isEmpty && found.all fun cell => (number? cell).isSome

/-- The text by which rows are grouped: a text as it is and all else as it is written. -/
def label : Option Json → String
  | none => "null"
  | some (.string text) => text
  | some cell => cell.render

/-- The name of a column for a reader, with blanks between its words. -/
def readable (column : String) : String :=
  String.ofList (Text.replaceChar '_' ' ' column.toList)

@[simp]
theorem values_nil (column : String) : values [] column = [] := rfl

end Table

end Querent

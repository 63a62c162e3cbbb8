import Querent.Text.Letter
import Querent.Text.Digit
import Querent.Text.Case

/-!
# SQL dialects

The dialects a database may speak and the points on which they differ: which characters start and
continue a name, which characters delimit a quoted name, and which clauses are known at all.  Every
difference between two dialects that the reader of queries makes is asked for here or is a test on
the dialect itself.
-/

namespace Querent.Sql

/-- A dialect of SQL. -/
inductive Dialect where
  | generic
  | duckDb
  | sqlite
  | postgres
  | mySql
  deriving DecidableEq, Repr, Inhabited

namespace Dialect

/-- All dialects, in the order in which they are documented. -/
def all : List Dialect :=
  [generic, duckDb, sqlite, postgres, mySql]

/-- The canonical name of a dialect. -/
def name : Dialect → String
  | generic => "generic"
  | duckDb => "duckdb"
  | sqlite => "sqlite"
  | postgres => "postgres"
  | mySql => "mysql"

/-- The dialect with a lower-case name; PostgreSQL goes by two names. -/
def ofLowerName? : String → Option Dialect
  | "generic" => some generic
  | "duckdb" => some duckDb
  | "sqlite" => some sqlite
  | "postgres" => some postgres
  | "postgresql" => some postgres
  | "mysql" => some mySql
  | _ => none

/-- Reads a name in any letter case; an unknown name is reported in lower case. -/
def ofName (text : String) : Except String Dialect :=
  let lowered := String.ofList (Text.lowerAscii text.toList)
  match ofLowerName? lowered with
  | some dialect => .ok dialect
  | none => .error ("Unsupported SQL dialect: " ++ lowered)

/-- Reading the canonical name of a dialect gives the dialect. -/
@[simp]
theorem ofLowerName?_name (dialect : Dialect) : ofLowerName? dialect.name = some dialect := by
  cases dialect <;> rfl

/-- Whether a character can start a name. -/
def startsName : Dialect → Char → Bool
  | generic, c => Text.isLetter c || c == '_' || c == '#' || c == '@'
  | duckDb, c => Text.isLetter c || c == '_'
  | sqlite, c =>
    c.isAlpha || c == '_' || c == '$' || (0x7F ≤ c.toNat && c.toNat ≤ 0xFFFF)
  | postgres, c => Text.isLetter c || c == '_'
  | mySql, c =>
    Text.isLetter c || c == '_' || c == '$' || c == '@' || (0x80 ≤ c.toNat && c.toNat ≤ 0xFFFF)

/-- Whether a character can continue a name. -/
def continuesName : Dialect → Char → Bool
  | generic, c =>
    Text.isLetter c || Text.isAsciiDigit c || c == '@' || c == '$' || c == '#' || c == '_'
  | duckDb, c => Text.isLetter c || Text.isAsciiDigit c || c == '$' || c == '_'
  | sqlite, c => startsName sqlite c || Text.isAsciiDigit c
  | postgres, c => Text.isLetter c || Text.isAsciiDigit c || c == '$' || c == '_'
  | mySql, c => startsName mySql c || Text.isAsciiDigit c

/-- Whether a character opens a quoted name. -/
def opensQuotedName : Dialect → Char → Bool
  | sqlite, c => c == '"' || c == '`' || c == '['
  | mySql, c => c == '`'
  | _, c => c == '"' || c == '`'

/-- Whether an aggregate may be followed by a `FILTER` clause. -/
def filtersAggregates : Dialect → Bool
  | duckDb | sqlite | postgres => true
  | generic | mySql => false

/-- Whether `GROUP BY` knows grouping sets, cubes and rollups. -/
def groupsBySets : Dialect → Bool
  | generic | duckDb | postgres => true
  | sqlite | mySql => false

/-- Whether square brackets after an expression hold arbitrary index expressions. -/
def indexesByExpression : Dialect → Bool
  | generic | postgres => true
  | duckDb | sqlite | mySql => false

end Dialect

end Querent.Sql

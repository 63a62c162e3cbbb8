import Querent.Table.ColumnKind
import Querent.Text.Fold

/-!
# Charts

The chart that suits a table best.  The rules are tried in order, and the first that applies decides:
numbers over dates, numbers by one category, several numbers, aggregates by category, a long column
of numbers.  A table that no rule applies to is shown as it is.
-/

namespace Querent

/-- A way to draw a table. -/
inductive ChartKind where
  | bar
  | line
  | pie
  | area
  | table
  deriving DecidableEq, Repr

/-- The name of a way to draw a table. -/
def ChartKind.name : ChartKind → String
  | bar => "bar"
  | line => "line"
  | pie => "pie"
  | area => "area"
  | table => "table"

/-- A chart for a table, and the columns along its axes. -/
structure Chart where
  kind : ChartKind
  reason : String
  xAxis : Option String
  yAxis : Option String
  deriving DecidableEq, Repr

namespace Chart

/-- The largest number of rows that are drawn as a pie. -/
def mostPieRows : Nat := 7

/-- A column of numbers is drawn as an area when it has more rows than this. -/
def areaRows : Nat := 20

/-- What the name of a column that holds aggregates mentions. -/
def aggregateWords : List String :=
  ["count", "sum", "avg", "total", "max", "min"]

/-- The names of the columns of a kind, in their order. -/
def namesOf (kinds : List (String × ColumnKind)) (kind : ColumnKind) : List String :=
  (kinds.filter fun entry => entry.2 = kind).map (·.1)

/-- The chart for numbers by a single category. -/
def byCategory (rows : Nat) (category number : Option String) : Chart :=
  if rows ≤ mostPieRows then
    ⟨.pie, "Small categorical dataset - pie chart shows proportions", category, number⟩
  else
    ⟨.bar, "Categorical data - bar chart compares values across categories", category, number⟩

/-- The chart that suits a table best. -/
def recommend (table : Table) : Chart :=
  if table.rows.isEmpty then ⟨.table, "No data to visualize", none, none⟩
  else
    let kinds := table.columnKinds
    let numeric := namesOf kinds .numeric
    let categorical := namesOf kinds .categorical
    let dates := namesOf kinds .date
    let hasNumbers := !numeric.isEmpty
    if !dates.isEmpty && hasNumbers then
      ⟨.line, "Time series data detected - line chart shows trends over time", dates.head?,
        numeric.head?⟩
    else if categorical.length == 1 && hasNumbers then
      byCategory table.rows.length categorical.head? numeric.head?
    else if numeric.length ≥ 2 then
      ⟨.bar, "Multiple numeric values - bar chart compares metrics", table.columns.head?,
        numeric.head?⟩
    else if table.columns.any (Text.mentionsAny aggregateWords) && !categorical.isEmpty then
      ⟨.bar, "Aggregated data - bar chart shows computed values by category", categorical.head?,
        numeric.head? <|> table.columns[1]?⟩
    else if table.rows.length > areaRows && hasNumbers then
      ⟨.area, "Large dataset - area chart shows overall trends", table.columns.head?,
        numeric.head?⟩
    else
      ⟨.table, "Complex data structure - table view provides detailed information", none, none⟩

/-- A chart as a document. -/
def json (chart : Chart) : Json :=
  .ofFields ([("type", .string chart.kind.name), ("reason", .string chart.reason)] ++
    Json.optionalField "xAxis" (chart.xAxis.map .string) ++
    Json.optionalField "yAxis" (chart.yAxis.map .string))

end Chart

end Querent

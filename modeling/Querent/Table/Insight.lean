import Querent.Table.Amount
import Querent.Table.Basic
import Querent.Table.Statistics
import Querent.Table.Totals
import Querent.Text.Fold

/-!
# Insights

What stands out in a table, in a fixed order: its size, the totals of money and of counts, trends
over time, the leader of the categories, and unusual values.  An insight is kept by what was found;
its wording, its kind and how far it can be trusted follow from that.
-/

namespace Querent

/-- Something that stands out in a table. -/
inductive Insight where
  | noResults
  | size (rows columns : Nat)
  | money (column : String) (total low high : Float)
  | quantity (column : String) (total mean : Float)
  | trend (column : String) (change : Float)
  | leader (category : String) (first second : String × Float)
  | anomaly (column : String) (count : Nat)

/-- The kinds of insights. -/
inductive InsightKind where
  | summary
  | trend
  | comparison
  | anomaly
  | recommendation
  deriving DecidableEq, Repr

/-- How directly an insight shows in the table. -/
inductive Confidence where
  | high
  | medium
  | low
  deriving DecidableEq, Repr

/-- The name of a kind of insights. -/
def InsightKind.name : InsightKind → String
  | summary => "summary"
  | trend => "trend"
  | comparison => "comparison"
  | anomaly => "anomaly"
  | recommendation => "recommendation"

/-- The name of a degree of confidence. -/
def Confidence.name : Confidence → String
  | high => "high"
  | medium => "medium"
  | low => "low"

/-- A noun for so many things. -/
def pluralized (count : Nat) (noun : String) : String :=
  if count == 1 then noun else noun ++ "s"

namespace Insight

/-- The kind of an insight. -/
def kind : Insight → InsightKind
  | noResults | size .. | money .. | quantity .. => .summary
  | trend .. => .trend
  | leader .. => .comparison
  | anomaly .. => .anomaly

/-- How far an insight can be trusted. -/
def confidence : Insight → Confidence
  | noResults | size .. | money .. | quantity .. | leader .. => .high
  | trend .. | anomaly .. => .medium

/-- The wording of an insight. -/
def text : Insight → String
  | noResults => "No results found for this query."
  | size rows columns =>
    "Found " ++ toString rows ++ " " ++ pluralized rows "result" ++ " with " ++ toString columns ++
      " " ++ pluralized columns "column" ++ "."
  | money column total low high =>
    "Total " ++ Table.readable column ++ ": " ++ Amount.dollars 0 total ++ ", ranging from " ++
      Amount.dollars 2 low ++ " to " ++ Amount.dollars 2 high ++ "."
  | quantity column total mean =>
    "Total " ++ Table.readable column ++ ": " ++ Amount.plain total ++ ", average: " ++
      Decimal.fixedText 1 mean ++ "."
  | trend column change =>
    Table.readable column ++ (if change > 0 then " increased" else " decreased") ++ " by " ++
      Decimal.fixedText 1 (change.abs * 100) ++ "% over the time period."
  | leader category first second =>
    "Top " ++ Table.readable category ++ ": \"" ++ first.1 ++ "\" leads with " ++
      Amount.plain first.2 ++ ", followed by \"" ++ second.1 ++ "\" at " ++
      Amount.plain second.2 ++ "."
  | anomaly column count =>
    toString count ++ " unusual " ++ pluralized count "value" ++ " detected in " ++
      Table.readable column ++ " (significantly different from average)."

/-- What the name of a column of money mentions. -/
def moneyWords : List String :=
  ["price", "amount", "revenue", "cost", "total", "sales"]

/-- What the name of a column of counts mentions. -/
def countWords : List String :=
  ["count", "quantity", "stock"]

/-- What the name of a column that places rows in time mentions. -/
def timeWords : List String :=
  ["date", "time", "created", "updated", "year", "month"]

/-- What the name of a column that puts rows into categories mentions. -/
def categoryWords : List String :=
  ["region", "category", "type", "name", "status"]

/-- The smallest relative change that counts as a trend. -/
def leastChange : Float := 0.05

/-- The smallest number of values that can show a trend. -/
def leastTrendValues : Nat := 3

/-- The smallest number of values that can show an anomaly. -/
def leastAnomalyValues : Nat := 5

/-- Unusual values are reported as long as they are a smaller share of all values than this. -/
def anomalyShare : Float := 0.1

/-- The total of a column of money or counts, unless it is beyond all numbers. -/
def summaryOf (rows : List Row) (column : String) : Option Insight :=
  let values := Table.numbers rows column
  let total := Statistics.sum values
  if values.length < 2 || !total.isFinite then none
  else if Text.mentionsAny moneyWords column then
    some (money column total (Statistics.least values) (Statistics.greatest values))
  else if Text.mentionsAny countWords column then
    some (quantity column total (Statistics.mean values))
  else none

/-- The change from the first half of the values of a column to the second. -/
def trendOf (rows : List Row) (column : String) : Option Insight :=
  let values := Table.numbers rows column
  if !Table.isNumeric rows column || values.length < leastTrendValues then none
  else
    let before := Statistics.mean (values.take (values.length / 2))
    let after := Statistics.mean (values.drop (values.length / 2))
    let change := Statistics.relativeChange before after
    if before == 0 then none
    else if change.abs > leastChange then some (trend column change)
    else none

/-- The trends of all columns, if some column places the rows in time. -/
def trends (table : Table) : List Insight :=
  if table.columns.any (Text.mentionsAny timeWords) then
    table.columns.filterMap (trendOf table.rows)
  else []

/-- The label and the value of a row that has a number in the measured column. -/
def measured? (category measure : String) (row : Row) : Option (String × Float) :=
  ((Json.lookup row measure).bind Table.number?).map fun value =>
    (Table.label (Json.lookup row category), value)

/-- The totals of a measured column by label. -/
def totals (rows : List Row) (category measure : String) : Totals :=
  .ofPairs (rows.filterMap (measured? category measure))

/-- Totals from the largest to the smallest; equal totals stay in their order. -/
def ranked (slots : List (String × Float)) : List (String × Float) :=
  slots.mergeSort fun a b => Statistics.rank b.2 ≤ Statistics.rank a.2

/-- The two leading categories of a table. -/
def leaderOf (table : Table) : Option Insight := do
  let category ← table.columns.find? (Text.mentionsAny categoryWords)
  let measure ← table.columns.find? (Table.isNumeric table.rows)
  match ranked (totals table.rows category measure).slots.toList with
  | first :: second :: _ => some (leader category first second)
  | _ => none

/-- The unusual values of a column, if there are some but not many. -/
def anomalyOf (rows : List Row) (column : String) : Option Insight :=
  let values := Table.numbers rows column
  let found := Statistics.outliers values
  if values.length < leastAnomalyValues || found.isEmpty then none
  else if Float.ofNat found.length < Float.ofNat values.length * anomalyShare then
    some (anomaly column found.length)
  else none

/-- Everything that stands out in a table. -/
def all (table : Table) : List Insight :=
  if table.rows.isEmpty then [noResults]
  else
    size table.rows.length table.columns.length ::
      (table.columns.filterMap (summaryOf table.rows) ++ trends table ++
        (leaderOf table).toList ++ table.columns.filterMap (anomalyOf table.rows))

/-- An insight as a document. -/
def json (insight : Insight) : Json :=
  .ofFields [("type", .string insight.kind.name), ("text", .string insight.text),
    ("confidence", .string insight.confidence.name)]

end Insight

end Querent

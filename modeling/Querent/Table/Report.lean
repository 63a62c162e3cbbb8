import Querent.Table.Chart
import Querent.Table.Insight

/-!
# Reports

All that the analysis of a table yields: a chart, the insights, and questions to ask next.
-/

namespace Querent

namespace FollowUp

/-- The largest number of questions. -/
def most : Nat := 4

/-- What the name of a column that asks for a view over time mentions. -/
def timeWords : List String :=
  ["date", "time", "created", "year", "month"]

/-- What the name of a column that asks for totals mentions. -/
def measureWords : List String :=
  ["price", "amount", "revenue", "quantity", "total"]

/-- The questions that suit a table without rows. -/
def withoutRows : List String :=
  ["Can you show me all available tables?", "Which columns are available in each table?"]

/-- Questions that are asked if the name of some column mentions one of the words. -/
def whenMentioned (columns words questions : List String) : List String :=
  if columns.any (Text.mentionsAny words) then questions else []

/-- Questions to ask next about a table. -/
def questions (table : Table) : List String :=
  if table.rows.isEmpty then withoutRows
  else
    (whenMentioned table.columns timeWords
        ["How does this trend look over the last 6 months?",
          "Can you compare this year vs last year?"] ++
      whenMentioned table.columns Insight.categoryWords
        ["Can you break this down by category?", "Which region performs best?"] ++
      whenMentioned table.columns measureWords
        ["What is the average and total?", "Show me the top 5 results"] ++
      ["Can you visualize this data?", "What insights can you find?"]).take most

/-- There are never more questions than may be asked. -/
theorem length_questions (table : Table) : (questions table).length ≤ most := by
  unfold questions
  split
  · decide
  · rw [List.length_take]
    exact Nat.min_le_left _ _

end FollowUp

/-- What the analysis of a table yields. -/
structure Report where
  chart : Chart
  insights : List Insight
  questions : List String

namespace Report

/-- The analysis of a table. -/
def ofTable (table : Table) : Report :=
  ⟨Chart.recommend table, Insight.all table, FollowUp.questions table⟩

/-- A report as a document. -/
def json (report : Report) : Json :=
  .ofFields [("chart", report.chart.json), ("insights", .array (report.insights.map Insight.json)),
    ("followUpQuestions", Json.ofStrings report.questions)]

end Report

end Querent

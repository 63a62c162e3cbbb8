import Querent.Proofs.Table.Leader

/-!
# The arrangement of insights

The insights of a table come in a fixed order: its size, the totals of columns, trends, at most one
comparison of categories, and what is unusual.  Each of the parts that look at single columns lists what
the columns show in the order of the columns.  The kind of an insight tells how far it can be trusted, no
insight recommends anything and none is of low confidence.  Without rows there is a single summary.
-/

namespace Querent.Insight

/-! ## Kinds and confidence -/

/-- Summaries and comparisons are of high confidence, and all other insights of medium confidence. -/
theorem confidence_of_kind (insight : Insight) :
    insight.kind ≠ .recommendation ∧ insight.confidence ≠ .low ∧
    (insight.kind = .summary ∨ insight.kind = .comparison → insight.confidence = .high) ∧
    (insight.kind = .trend ∨ insight.kind = .anomaly → insight.confidence = .medium) := by
  cases insight <;> simp [kind, confidence]

theorem map_kind_eq_replicate {insights : List Insight} {expected : InsightKind}
    (same : ∀ insight ∈ insights, insight.kind = expected) :
    insights.map kind = List.replicate insights.length expected := by
  rw [List.eq_replicate_iff]
  constructor
  · exact List.length_map kind
  · intro found member
    rcases List.mem_map.1 member with ⟨insight, listed, rfl⟩
    exact same insight listed

/-- All insights of a block are of the kind that its columns show. -/
theorem Block.map_kind {shows : String → Insight → Prop} {columns chosen : List String}
    {insights : List Insight} {expected : InsightKind} (block : Block shows columns chosen insights)
    (kinds : ∀ {column insight}, shows column insight → insight.kind = expected) :
    insights.map kind = List.replicate insights.length expected := by
  apply map_kind_eq_replicate
  intro insight member
  rcases block.exists_shown member with ⟨column, -, shown⟩
  exact kinds shown

/-! ## The parts of all insights -/

theorem all_of_rows {table : Table} (some : table.rows ≠ []) :
    all table = size table.rows.length table.columns.length ::
      (table.columns.filterMap (summaryOf table.rows) ++ trends table ++
        (leaderOf table).toList ++ table.columns.filterMap (anomalyOf table.rows)) := by
  rw [all, if_neg (by simpa using some)]

/--
The insights of a table are its size, then the totals of some columns, then trends, then at most one
comparison and at last what is unusual; without rows there is only a summary.  The three blocks hold what
the columns show, in the order of the columns and at most once for each listed column: a total of at least
two numbers under a name of money or, failing that, of counts; a trend of at least three numbers in a
column without other values, if some column tells the time; an anomaly among at least five numbers.
-/
theorem all_arranged (table : Table) :
    (table.rows = [] → all table = [noResults] ∧ (all table).map kind = [.summary]) ∧
    (table.rows ≠ [] → ∃ summaries trends anomalies,
      all table = size table.rows.length table.columns.length ::
        (summaries ++ trends ++ (leaderOf table).toList ++ anomalies) ∧
      (all table).map kind = List.replicate (summaries.length + 1) .summary ++
        List.replicate trends.length .trend ++
        List.replicate (leaderOf table).toList.length .comparison ++
        List.replicate anomalies.length .anomaly ∧
      (∃ chosen, Block (SumsUp table.rows) table.columns chosen summaries) ∧
      (∃ chosen, Block (ShowsTrend table) table.columns chosen trends) ∧
      (∃ chosen, Block (ShowsAnomaly table.rows) table.columns chosen anomalies)) ∧
    (∀ insight ∈ all table, insight.kind ≠ .recommendation ∧ insight.confidence ≠ .low ∧
      (insight.kind = .summary ∨ insight.kind = .comparison → insight.confidence = .high) ∧
      (insight.kind = .trend ∨ insight.kind = .anomaly → insight.confidence = .medium)) := by
  constructor
  · intro none
    have empty : all table = [noResults] := if_pos (List.isEmpty_iff.2 none)
    rw [empty]
    exact ⟨rfl, rfl⟩
  constructor
  · intro some
    have whole := all_of_rows some
    rcases block_summaries table.rows table.columns with ⟨summing, summaries⟩
    rcases block_trends table with ⟨changing, trends⟩
    rcases block_anomalies table.rows table.columns with ⟨unusual, anomalies⟩
    refine ⟨_, _, _, whole, ?_, ⟨_, summaries⟩, ⟨_, trends⟩, ⟨_, anomalies⟩⟩
    have comparison : (leaderOf table).toList.map kind =
        List.replicate (leaderOf table).toList.length .comparison :=
      map_kind_eq_replicate fun insight member => kind_of_leaderOf (Option.mem_toList.1 member)
    rw [whole, List.map_cons, List.map_append, List.map_append, List.map_append,
      summaries.map_kind SumsUp.kind_eq, trends.map_kind ShowsTrend.kind_eq, comparison,
      anomalies.map_kind ShowsAnomaly.kind_eq]
    rfl
  · intro insight _
    exact confidence_of_kind insight

/-- The revenue of three months. -/
def monthlyRevenue : Table where
  columns := ["month", "revenue"]
  rows :=
    [[("month", .string "January"), ("revenue", .integer 100)],
      [("month", .string "February"), ("revenue", .integer 110)],
      [("month", .string "March"), ("revenue", .integer 150)]]

/-- The revenue is summed up and grows; without its rows the table gives a single summary. -/
theorem all_arranged_monthlyRevenue :
    monthlyRevenue.rows ≠ [] ∧
    (all monthlyRevenue).map kind = [.summary, .summary, .trend] ∧
    (∃ summaries trends anomalies,
      all monthlyRevenue = size 3 2 ::
        (summaries ++ trends ++ (leaderOf monthlyRevenue).toList ++ anomalies) ∧
      (∃ chosen, Block (SumsUp monthlyRevenue.rows) monthlyRevenue.columns chosen summaries) ∧
      (∃ chosen, Block (ShowsTrend monthlyRevenue) monthlyRevenue.columns chosen trends) ∧
      (∃ chosen, Block (ShowsAnomaly monthlyRevenue.rows) monthlyRevenue.columns chosen anomalies)) ∧
    all ⟨monthlyRevenue.columns, []⟩ = [noResults] := by
  have some : monthlyRevenue.rows ≠ [] := List.cons_ne_nil _ _
  rcases all_arranged monthlyRevenue with ⟨-, arranged, -⟩
  rcases arranged some with ⟨summaries, trends, anomalies, whole, -, blocks⟩
  constructor
  · exact some
  constructor
  · decide +kernel
  constructor
  · exact ⟨summaries, trends, anomalies, whole, blocks⟩
  · exact ((all_arranged ⟨monthlyRevenue.columns, []⟩).1 rfl).1

end Querent.Insight

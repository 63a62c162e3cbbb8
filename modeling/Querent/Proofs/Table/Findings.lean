import Mathlib.Data.List.Forall2
import Querent.Table.Insight

/-!
# What is found in a column

Which insight a single column gives, if any: the total of its numbers, their change over time, or how
many of them are unusual.  Each of the three is described by the conditions that a column meets when it
gives such an insight, and a search through all columns finds exactly what is described, in the order of
the columns and as often as a column is listed.
-/

namespace Querent.Insight

open Statistics

/-! ## Insights of a single column -/

/-- The mean of the first half of the numbers in a column. -/
def meanBefore (rows : List Row) (column : String) : Float :=
  mean ((Table.numbers rows column).take ((Table.numbers rows column).length / 2))

/-- The mean of the second half of the numbers in a column. -/
def meanAfter (rows : List Row) (column : String) : Float :=
  mean ((Table.numbers rows column).drop ((Table.numbers rows column).length / 2))

/--
Whether an insight sums up a column: several numbers with a finite total under the name of an amount of
money or, failing that, of a count.
-/
inductive SumsUp (rows : List Row) (column : String) : Insight → Prop where
  | money (several : 2 ≤ (Table.numbers rows column).length)
      (finite : (sum (Table.numbers rows column)).isFinite = true)
      (named : Text.mentionsAny moneyWords column = true) :
      SumsUp rows column (.money column (sum (Table.numbers rows column))
        (least (Table.numbers rows column)) (greatest (Table.numbers rows column)))
  | quantity (several : 2 ≤ (Table.numbers rows column).length)
      (finite : (sum (Table.numbers rows column)).isFinite = true)
      (other : Text.mentionsAny moneyWords column = false)
      (named : Text.mentionsAny countWords column = true) :
      SumsUp rows column (.quantity column (sum (Table.numbers rows column))
        (mean (Table.numbers rows column)))

/--
Whether an insight shows how a column changes: nothing but numbers, at least three of them, whose two
halves differ enough, in a table that places its rows in time.
-/
inductive ShowsTrend (table : Table) (column : String) : Insight → Prop where
  | trend (timed : ∃ other ∈ table.columns, Text.mentionsAny timeWords other = true)
      (numeric : Table.isNumeric table.rows column = true)
      (several : 3 ≤ (Table.numbers table.rows column).length)
      (nonzero : (meanBefore table.rows column == 0) = false)
      (large : leastChange <
        (relativeChange (meanBefore table.rows column) (meanAfter table.rows column)).abs) :
      ShowsTrend table column (.trend column
        (relativeChange (meanBefore table.rows column) (meanAfter table.rows column)))

/-- Whether an insight counts what is unusual in a column: some of at least five numbers, but few. -/
inductive ShowsAnomaly (rows : List Row) (column : String) : Insight → Prop where
  | anomaly (several : 5 ≤ (Table.numbers rows column).length)
      (some : outliers (Table.numbers rows column) ≠ [])
      (few : Float.ofNat (outliers (Table.numbers rows column)).length <
        Float.ofNat (Table.numbers rows column).length * anomalyShare) :
      ShowsAnomaly rows column (.anomaly column (outliers (Table.numbers rows column)).length)

variable {table : Table} {rows : List Row} {column : String} {insight : Insight}

theorem summaryOf_eq_some_iff : summaryOf rows column = some insight ↔ SumsUp rows column insight := by
  unfold summaryOf
  simp only
  constructor
  · intro found
    split at found
    next => cases found
    next guarded =>
      simp only [Bool.or_eq_true, decide_eq_true_eq, Bool.not_eq_true', not_or, Nat.not_lt,
        Bool.not_eq_false] at guarded
      rcases guarded with ⟨several, finite⟩
      split at found
      next named =>
        cases found
        exact .money several finite named
      next other =>
        split at found
        next named =>
          cases found
          exact .quantity several finite (Bool.eq_false_iff.2 other) named
        next => cases found
  · intro sumsUp
    cases sumsUp with
    | money several finite named => simp [Nat.not_lt.2 several, finite, named]
    | quantity several finite other named => simp [Nat.not_lt.2 several, finite, other, named]

theorem trendOf_eq_some_iff
    (timed : ∃ other ∈ table.columns, Text.mentionsAny timeWords other = true) :
    trendOf table.rows column = some insight ↔ ShowsTrend table column insight := by
  unfold trendOf
  simp only
  constructor
  · intro found
    split at found
    next => cases found
    next guarded =>
      simp only [Bool.or_eq_true, decide_eq_true_eq, Bool.not_eq_true', not_or, Nat.not_lt,
        Bool.not_eq_false] at guarded
      rcases guarded with ⟨numeric, several⟩
      split at found
      next => cases found
      next nonzero =>
        split at found
        next large =>
          cases found
          exact .trend timed numeric several (Bool.eq_false_iff.2 nonzero) large
        next => cases found
  · intro shows
    cases shows with
    | trend _ numeric several nonzero large =>
      unfold meanBefore meanAfter at *
      have enough : ¬ (Table.numbers table.rows column).length < leastTrendValues :=
        Nat.not_lt.2 several
      simp [numeric, enough, nonzero, large]

theorem anomalyOf_eq_some_iff :
    anomalyOf rows column = some insight ↔ ShowsAnomaly rows column insight := by
  unfold anomalyOf
  simp only
  constructor
  · intro found
    split at found
    next => cases found
    next guarded =>
      simp only [Bool.or_eq_true, decide_eq_true_eq, List.isEmpty_iff, not_or, Nat.not_lt] at guarded
      rcases guarded with ⟨several, unusual⟩
      split at found
      next few =>
        cases found
        exact .anomaly several unusual few
      next => cases found
  · intro shows
    cases shows with
    | anomaly several unusual few =>
      have enough : ¬ (Table.numbers rows column).length < leastAnomalyValues :=
        Nat.not_lt.2 several
      simp [enough, unusual, few]

theorem SumsUp.kind_eq (sumsUp : SumsUp rows column insight) : insight.kind = .summary := by
  cases sumsUp with
  | money => rfl
  | quantity => rfl

theorem ShowsTrend.kind_eq (shows : ShowsTrend table column insight) : insight.kind = .trend := by
  cases shows with
  | trend => rfl

theorem ShowsAnomaly.kind_eq (shows : ShowsAnomaly rows column insight) :
    insight.kind = .anomaly := by
  cases shows with
  | anomaly => rfl

/-! ## Searching through the columns -/

/--
Whether insights are what the listed columns show: some of the columns are chosen, in their order, and
give one insight each, and every column that shows something is chosen as often as it is listed.
-/
structure Block (shows : String → Insight → Prop) (columns chosen : List String)
    (insights : List Insight) : Prop where
  listed : chosen.Sublist columns
  shown : List.Forall₂ shows chosen insights
  complete : ∀ column ∈ columns, (∃ insight, shows column insight) →
    chosen.count column = columns.count column

namespace Block

variable {shows : String → Insight → Prop} {columns chosen : List String} {insights : List Insight}

/-- A search in every column chooses those in which something is found. -/
theorem filterMap {pick : String → Option Insight}
    (picks : ∀ column insight, pick column = some insight ↔ shows column insight)
    (columns : List String) :
    Block shows columns (columns.filter fun column => (pick column).isSome)
      (columns.filterMap pick) := by
  constructor
  case listed => exact List.filter_sublist
  case shown =>
    induction columns with
    | nil => exact .nil
    | cons column columns ih =>
      cases picked : pick column with
      | none =>
        rw [List.filterMap_cons_none picked, List.filter_cons_of_neg (by simp [picked])]
        exact ih
      | some insight =>
        rw [List.filterMap_cons_some picked, List.filter_cons_of_pos (by simp [picked])]
        exact .cons ((picks column insight).1 picked) ih
  case complete =>
    rintro column - ⟨insight, shows⟩
    apply List.count_filter
    rw [(picks column insight).2 shows]
    rfl

/-- Where no column shows anything, none is chosen. -/
theorem nothing (silent : ∀ column insight, ¬ shows column insight) (columns : List String) :
    Block shows columns [] [] := by
  constructor
  case listed => exact List.nil_sublist columns
  case shown => exact .nil
  case complete =>
    rintro column - ⟨insight, shows⟩
    exact absurd shows (silent column insight)

/-- Every insight of a block is shown by one of the columns. -/
theorem exists_shown (block : Block shows columns chosen insights) (member : insight ∈ insights) :
    ∃ column ∈ columns, shows column insight := by
  rcases List.getElem_of_mem member with ⟨place, inside, rfl⟩
  have same := block.shown.length_eq
  refine ⟨chosen[place], block.listed.mem (List.getElem_mem _), ?_⟩
  exact block.shown.get (by omega) inside

end Block

theorem block_summaries (rows : List Row) (columns : List String) :
    ∃ chosen, Block (SumsUp rows) columns chosen (columns.filterMap (summaryOf rows)) :=
  ⟨_, .filterMap (fun _ _ => summaryOf_eq_some_iff) columns⟩

theorem block_trends (table : Table) :
    ∃ chosen, Block (ShowsTrend table) table.columns chosen (trends table) := by
  unfold trends
  split
  next timed =>
    have timed := List.any_eq_true.1 timed
    exact ⟨_, .filterMap (fun _ _ => trendOf_eq_some_iff timed) table.columns⟩
  next untimed =>
    refine ⟨[], .nothing (fun column insight shows => ?_) table.columns⟩
    cases shows with
    | trend timed => exact untimed (List.any_eq_true.2 timed)

theorem block_anomalies (rows : List Row) (columns : List String) :
    ∃ chosen, Block (ShowsAnomaly rows) columns chosen (columns.filterMap (anomalyOf rows)) :=
  ⟨_, .filterMap (fun _ _ => anomalyOf_eq_some_iff) columns⟩

end Querent.Insight

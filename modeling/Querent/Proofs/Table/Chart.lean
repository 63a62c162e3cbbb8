import Querent.Proofs.Table.ColumnKind
import Querent.Table.Chart

/-!
# Which chart suits a table

The rules for charts overlap, and the first one that applies decides.  Each rule is stated here with
all that the rules before it leave over, so that exactly one case holds for every table.  From these
cases follow the exact conditions for lines, pies and areas, and what can be relied on about the axes.
-/

namespace Querent.Chart

/-! ## The columns of a kind -/

/-- The columns of a kind, in their order. -/
def columnsOf (table : Table) (kind : ColumnKind) : List String :=
  table.columns.filter fun column => ColumnKind.infer table.rows column = kind

/-- Whether the name of some column mentions an aggregate. -/
def Aggregates (table : Table) : Prop :=
  ∃ column ∈ table.columns, Text.mentionsAny aggregateWords column = true

instance (table : Table) : Decidable (Aggregates table) :=
  inferInstanceAs (Decidable (∃ column ∈ table.columns, _ = true))

variable {table : Table} {kind : ColumnKind}

theorem namesOf_columnKinds (table : Table) (kind : ColumnKind) :
    namesOf table.columnKinds kind = columnsOf table kind := by
  rw [namesOf, Table.columnKinds, List.filter_map, List.map_map]
  exact List.map_id _

theorem mem_columns_of_head? {column : String} (first : (columnsOf table kind).head? = some column) :
    column ∈ table.columns :=
  List.mem_of_mem_filter (List.mem_of_mem_head? first)

theorem columns_ne_nil (some : columnsOf table kind ≠ []) : table.columns ≠ [] := by
  intro none
  apply some
  rw [columnsOf, none]
  rfl

theorem eq_singleton_of_mem {columns : List String} {column : String} (member : column ∈ columns)
    (short : columns.length ≤ 1) : columns = [column] := by
  rcases List.append_of_mem member with ⟨before, after, rfl⟩
  rw [List.length_append, List.length_cons] at short
  rw [List.length_eq_zero_iff.1 (show before.length = 0 by omega),
    List.length_eq_zero_iff.1 (show after.length = 0 by omega)]
  rfl

theorem columnsOf_of_singleton {column : String} (single : table.columns = [column])
    (some : columnsOf table kind ≠ []) : columnsOf table kind = [column] := by
  have within : (columnsOf table kind).Sublist table.columns := List.filter_sublist
  rw [single] at within
  exact (List.sublist_singleton.1 within).resolve_left some

/-! ## The rules -/

/--
Whether a chart suits a table, by the rule that decides.  The conditions of a rule include what is
left over by the rules before it.
-/
inductive Suits (table : Table) : Chart → Prop where
  | nothing (empty : table.rows = []) : Suits table ⟨.table, "No data to visualize", none, none⟩
  | overTime (rows : table.rows ≠ []) (dates : columnsOf table .date ≠ [])
      (numbers : columnsOf table .numeric ≠ []) :
      Suits table ⟨.line, "Time series data detected - line chart shows trends over time",
        (columnsOf table .date).head?, (columnsOf table .numeric).head?⟩
  | shares {category : String} (rows : table.rows ≠ []) (few : table.rows.length ≤ mostPieRows)
      (dates : columnsOf table .date = []) (numbers : columnsOf table .numeric ≠ [])
      (categories : columnsOf table .categorical = [category]) :
      Suits table ⟨.pie, "Small categorical dataset - pie chart shows proportions",
        some category, (columnsOf table .numeric).head?⟩
  | byCategory {category : String} (many : mostPieRows < table.rows.length)
      (dates : columnsOf table .date = []) (numbers : columnsOf table .numeric ≠ [])
      (categories : columnsOf table .categorical = [category]) :
      Suits table ⟨.bar, "Categorical data - bar chart compares values across categories",
        some category, (columnsOf table .numeric).head?⟩
  | metrics (rows : table.rows ≠ []) (dates : columnsOf table .date = [])
      (numbers : 2 ≤ (columnsOf table .numeric).length)
      (categories : (columnsOf table .categorical).length ≠ 1) :
      Suits table ⟨.bar, "Multiple numeric values - bar chart compares metrics",
        table.columns.head?, (columnsOf table .numeric).head?⟩
  | aggregates (rows : table.rows ≠ []) (numbers : (columnsOf table .numeric).length ≤ 1)
      (remaining : columnsOf table .numeric ≠ [] → columnsOf table .date = [] ∧
        (columnsOf table .categorical).length ≠ 1)
      (categories : columnsOf table .categorical ≠ []) (named : Aggregates table) :
      Suits table ⟨.bar, "Aggregated data - bar chart shows computed values by category",
        (columnsOf table .categorical).head?,
        (columnsOf table .numeric).head? <|> table.columns[1]?⟩
  | long (many : areaRows < table.rows.length) (dates : columnsOf table .date = [])
      (numbers : (columnsOf table .numeric).length = 1)
      (categories : (columnsOf table .categorical).length ≠ 1)
      (unnamed : columnsOf table .categorical = [] ∨ ¬ Aggregates table) :
      Suits table ⟨.area, "Large dataset - area chart shows overall trends",
        table.columns.head?, (columnsOf table .numeric).head?⟩
  | complex (rows : table.rows ≠ []) (numbers : (columnsOf table .numeric).length ≤ 1)
      (remaining : columnsOf table .numeric ≠ [] → columnsOf table .date = [] ∧
        (columnsOf table .categorical).length ≠ 1 ∧ table.rows.length ≤ areaRows) :
      Suits table ⟨.table, "Complex data structure - table view provides detailed information",
        none, none⟩

theorem aggregates_iff :
    table.columns.any (Text.mentionsAny aggregateWords) = true ↔ Aggregates table :=
  List.any_eq_true

/-- What is left over when no chart by dates or by a single category is drawn. -/
theorem left_over {dates numbers categories : List String}
    (overTime : ¬ (dates ≠ [] ∧ numbers ≠ [])) (single : ¬ (categories.length = 1 ∧ numbers ≠ []))
    (some : numbers ≠ []) : dates = [] ∧ categories.length ≠ 1 := by
  constructor
  · by_contra present
    exact overTime ⟨present, some⟩
  · intro one
    exact single ⟨one, some⟩

/-- The recommendation suits the table. -/
theorem suits_recommend (table : Table) : Suits table (recommend table) := by
  by_cases empty : table.rows = []
  · rw [recommend, if_pos (List.isEmpty_iff.2 empty)]
    exact .nothing empty
  rw [recommend, if_neg (mt List.isEmpty_iff.1 empty)]
  simp only [namesOf_columnKinds, Bool.and_eq_true, Bool.not_eq_true', List.isEmpty_eq_false_iff,
    beq_iff_eq, decide_eq_true_eq, aggregates_iff]
  by_cases overTime : columnsOf table .date ≠ [] ∧ columnsOf table .numeric ≠ []
  · rw [if_pos overTime]
    exact .overTime empty overTime.1 overTime.2
  rw [if_neg overTime]
  by_cases single :
      (columnsOf table .categorical).length = 1 ∧ columnsOf table .numeric ≠ []
  · rw [if_pos single]
    rcases List.length_eq_one_iff.1 single.1 with ⟨category, categories⟩
    have dates : columnsOf table .date = [] := by
      by_contra present
      exact overTime ⟨present, single.2⟩
    rw [byCategory, categories, List.head?_cons]
    by_cases few : table.rows.length ≤ mostPieRows
    · rw [if_pos few]
      exact .shares empty few dates single.2 categories
    · rw [if_neg few]
      exact .byCategory (Nat.lt_of_not_le few) dates single.2 categories
  rw [if_neg single]
  have remaining := left_over overTime single
  by_cases several : 2 ≤ (columnsOf table .numeric).length
  · rw [if_pos several]
    have some : columnsOf table .numeric ≠ [] := List.ne_nil_of_length_pos (by omega)
    exact .metrics empty (remaining some).1 several (remaining some).2
  rw [if_neg several]
  have most : (columnsOf table .numeric).length ≤ 1 := Nat.le_of_lt_succ (Nat.lt_of_not_le several)
  by_cases aggregated : Aggregates table ∧ columnsOf table .categorical ≠ []
  · rw [if_pos aggregated]
    exact .aggregates empty most remaining aggregated.2 aggregated.1
  rw [if_neg aggregated]
  by_cases long : areaRows < table.rows.length ∧ columnsOf table .numeric ≠ []
  · rw [if_pos long]
    have one : (columnsOf table .numeric).length = 1 :=
      Nat.le_antisymm most (List.length_pos_of_ne_nil long.2)
    have unnamed : columnsOf table .categorical = [] ∨ ¬ Aggregates table := by
      by_cases none : columnsOf table .categorical = []
      · exact .inl none
      · exact .inr fun named => aggregated ⟨named, none⟩
    exact .long long.1 (remaining long.2).1 one (remaining long.2).2 unnamed
  · rw [if_neg long]
    refine .complex empty most fun some => ?_
    exact ⟨(remaining some).1, (remaining some).2, Nat.le_of_not_lt fun many => long ⟨many, some⟩⟩

/-! ## When a chart of a kind is drawn -/

namespace Suits

variable {chart : Chart}

theorem kind_eq_line_iff (suits : Suits table chart) : chart.kind = .line ↔
    table.rows ≠ [] ∧ columnsOf table .date ≠ [] ∧ columnsOf table .numeric ≠ [] := by
  cases suits with
  | nothing empty => simp [empty]
  | overTime rows dates numbers => simp [rows, dates, numbers]
  | shares rows few dates numbers categories => simp [dates]
  | byCategory many dates numbers categories => simp [dates]
  | metrics rows dates numbers categories => simp [dates]
  | aggregates rows numbers remaining categories named => grind
  | long many dates numbers categories unnamed => simp [dates]
  | complex rows numbers remaining => grind

theorem kind_eq_pie_iff (suits : Suits table chart) : chart.kind = .pie ↔
    1 ≤ table.rows.length ∧ table.rows.length ≤ mostPieRows ∧ columnsOf table .date = [] ∧
      (columnsOf table .categorical).length = 1 ∧ columnsOf table .numeric ≠ [] := by
  cases suits with
  | nothing empty => simp [empty]
  | overTime rows dates numbers => simp [dates]
  | shares rows few dates numbers categories =>
    simp [Nat.one_le_iff_ne_zero, rows, few, dates, numbers, categories]
  | byCategory many dates numbers categories => simp [Nat.not_le_of_lt many]
  | metrics rows dates numbers categories => simp [categories]
  | aggregates rows numbers remaining categories named => grind
  | long many dates numbers categories unnamed => simp [categories]
  | complex rows numbers remaining => grind

theorem kind_eq_area_iff (suits : Suits table chart) : chart.kind = .area ↔
    areaRows < table.rows.length ∧ columnsOf table .date = [] ∧
      (columnsOf table .numeric).length = 1 ∧ (columnsOf table .categorical).length ≠ 1 ∧
      (columnsOf table .categorical = [] ∨ ¬ Aggregates table) := by
  cases suits with
  | nothing empty => simp [empty]
  | overTime rows dates numbers => simp [dates]
  | shares rows few dates numbers categories => simp [categories]
  | byCategory many dates numbers categories => simp [categories]
  | metrics rows dates numbers categories => grind
  | aggregates rows numbers remaining categories named => simp [categories, named]
  | long many dates numbers categories unnamed => simp [many, dates, numbers, categories, unnamed]
  | complex rows numbers remaining => grind

/-! ## The axes -/

/-- A column of numbers is a column. -/
theorem columns_ne_nil_of_long {count : Nat} (numbers : count + 1 ≤ (columnsOf table kind).length) :
    table.columns ≠ [] :=
  columns_ne_nil (List.ne_nil_of_length_pos (Nat.lt_of_lt_of_le (Nat.succ_pos count) numbers))

/-- Axes are columns of the table. -/
theorem axis_mem (suits : Suits table chart) {axis : String}
    (named : chart.xAxis = some axis ∨ chart.yAxis = some axis) : axis ∈ table.columns := by
  have first {column : String} (head : table.columns.head? = some column) :
      column ∈ table.columns :=
    List.mem_of_mem_head? head
  have single {category : String} (categories : columnsOf table .categorical = [category]) :
      category ∈ table.columns :=
    List.mem_of_mem_filter (categories ▸ List.mem_singleton_self category)
  cases suits with
  | nothing empty => simp at named
  | overTime rows dates numbers => exact named.elim mem_columns_of_head? mem_columns_of_head?
  | shares rows few dates numbers categories =>
    rcases named with x | y
    · cases x
      exact single categories
    · exact mem_columns_of_head? y
  | byCategory many dates numbers categories =>
    rcases named with x | y
    · cases x
      exact single categories
    · exact mem_columns_of_head? y
  | metrics rows dates numbers categories => exact named.elim first mem_columns_of_head?
  | aggregates rows numbers remaining categories named' =>
    rcases named with x | y
    · exact mem_columns_of_head? x
    · rw [Option.orElse_eq_orElse, Option.orElse_eq_or, Option.or_eq_some_iff] at y
      rcases y with head | ⟨_, second⟩
      · exact mem_columns_of_head? head
      · exact List.mem_of_getElem? second
  | long many dates numbers categories unnamed => exact named.elim first mem_columns_of_head?
  | complex rows numbers remaining => simp at named

/-- A table has no axes, and any other chart has one along the bottom. -/
theorem kind_eq_table_iff (suits : Suits table chart) :
    (chart.kind = .table ↔ chart.xAxis = none) ∧ (chart.kind = .table → chart.yAxis = none) := by
  cases suits with
  | nothing empty => simp
  | overTime rows dates numbers => simp [dates]
  | shares rows few dates numbers categories => simp
  | byCategory many dates numbers categories => simp
  | metrics rows dates numbers categories => simp [columns_ne_nil_of_long numbers]
  | aggregates rows numbers remaining categories named => simp [categories]
  | long many dates numbers categories unnamed =>
    simp [columns_ne_nil_of_long (Nat.le_of_eq numbers.symm)]
  | complex rows numbers remaining => simp

/-- Numbers are drawn upwards: the first column of numbers if there is one. -/
theorem yAxis_eq (suits : Suits table chart) (numbers : columnsOf table .numeric ≠ [])
    (drawn : chart.kind ≠ .table) : chart.yAxis = (columnsOf table .numeric).head? := by
  cases suits with
  | nothing empty => exact absurd rfl drawn
  | aggregates rows most remaining categories named =>
    rcases List.exists_cons_of_ne_nil numbers with ⟨first, rest, order⟩
    rw [order]
    rfl
  | complex rows most remaining => exact absurd rfl drawn
  | _ => rfl

/-- Only a single column of categories that is named for an aggregate is drawn without numbers. -/
theorem of_yAxis_eq_none (suits : Suits table chart) (drawn : chart.kind ≠ .table)
    (missing : chart.yAxis = none) :
    chart.kind = .bar ∧ ∃ column, table.columns = [column] ∧
      columnsOf table .categorical = [column] ∧ Text.mentionsAny aggregateWords column = true := by
  by_cases numbers : columnsOf table .numeric = []
  · cases suits with
    | nothing empty => exact absurd rfl drawn
    | overTime rows dates some => exact absurd numbers some
    | shares rows few dates some categories => exact absurd numbers some
    | byCategory many dates some categories => exact absurd numbers some
    | metrics rows dates several categories =>
      rw [numbers] at several
      cases several
    | aggregates rows most remaining categories named =>
      rcases named with ⟨column, member, mentions⟩
      rw [numbers] at missing
      -- There is no second column to be drawn, so there is but one.
      have single := eq_singleton_of_mem member (List.getElem?_eq_none_iff.1 missing)
      exact ⟨rfl, column, single, columnsOf_of_singleton single categories, mentions⟩
    | long many dates one categories unnamed =>
      rw [numbers] at one
      cases one
    | complex rows most remaining => exact absurd rfl drawn
  · rw [suits.yAxis_eq numbers drawn, List.head?_eq_none_iff] at missing
    exact absurd missing numbers

theorem xAxis_of_line (suits : Suits table chart) (isLine : chart.kind = .line) :
    chart.xAxis = (columnsOf table .date).head? := by
  cases suits with
  | overTime rows dates numbers => rfl
  | _ => cases isLine

theorem xAxis_of_pie (suits : Suits table chart) (isPie : chart.kind = .pie) :
    ∃ category, columnsOf table .categorical = [category] ∧ chart.xAxis = some category := by
  cases suits with
  | shares rows few dates numbers categories => exact ⟨_, categories, rfl⟩
  | _ => cases isPie

end Suits

/-! ## Results -/

/-- The order of the rows makes no difference to the chart. -/
theorem recommend_of_perm {rows : List Row} (perm : rows.Perm table.rows) :
    recommend ⟨table.columns, rows⟩ = recommend table := by
  have kinds : (Table.mk table.columns rows).columnKinds = table.columnKinds :=
    Table.columnKinds_of_perm perm table.columns
  rw [recommend, recommend, kinds, perm.isEmpty_eq, perm.length_eq]

/--
Which chart is drawn, and along which axes.  Lines need dates and numbers; pies few rows, no dates, a
single column of categories and numbers; areas many rows, no dates, a single column of numbers and
nothing that would make them bars.  Axes are columns of the table.  A table as it is has none, any
other chart has one along the bottom, and upwards it shows the first column of numbers if there is one.
The order of the rows makes no difference.
-/
theorem recommend_by_columns (table : Table) :
    ((recommend table).kind = .line ↔
      table.rows ≠ [] ∧ columnsOf table .date ≠ [] ∧ columnsOf table .numeric ≠ []) ∧
    ((recommend table).kind = .pie ↔
      1 ≤ table.rows.length ∧ table.rows.length ≤ 7 ∧ columnsOf table .date = [] ∧
        (columnsOf table .categorical).length = 1 ∧ columnsOf table .numeric ≠ []) ∧
    ((recommend table).kind = .area ↔
      20 < table.rows.length ∧ columnsOf table .date = [] ∧
        (columnsOf table .numeric).length = 1 ∧ (columnsOf table .categorical).length ≠ 1 ∧
        (columnsOf table .categorical = [] ∨ ¬ Aggregates table)) ∧
    (∀ axis, (recommend table).xAxis = some axis ∨ (recommend table).yAxis = some axis →
      axis ∈ table.columns) ∧
    ((recommend table).kind = .table ↔ (recommend table).xAxis = none) ∧
    ((recommend table).kind = .table → (recommend table).yAxis = none) ∧
    (columnsOf table .numeric ≠ [] → (recommend table).kind ≠ .table →
      (recommend table).yAxis = (columnsOf table .numeric).head?) ∧
    ((recommend table).kind ≠ .table → (recommend table).yAxis = none →
      (recommend table).kind = .bar ∧ ∃ column, table.columns = [column] ∧
        columnsOf table .categorical = [column] ∧
        Text.mentionsAny aggregateWords column = true) ∧
    ((recommend table).kind = .line →
      (recommend table).xAxis = (columnsOf table .date).head?) ∧
    ((recommend table).kind = .pie → ∃ category, columnsOf table .categorical = [category] ∧
      (recommend table).xAxis = some category) ∧
    ∀ rows : List Row, rows.Perm table.rows →
      recommend ⟨table.columns, rows⟩ = recommend table := by
  have suits := suits_recommend table
  constructor
  · exact suits.kind_eq_line_iff
  constructor
  · exact suits.kind_eq_pie_iff
  constructor
  · exact suits.kind_eq_area_iff
  constructor
  · intro axis named
    exact suits.axis_mem named
  constructor
  · exact suits.kind_eq_table_iff.1
  constructor
  · exact suits.kind_eq_table_iff.2
  constructor
  · exact suits.yAxis_eq
  constructor
  · exact suits.of_yAxis_eq_none
  constructor
  · exact suits.xAxis_of_line
  constructor
  · exact suits.xAxis_of_pie
  · intro rows perm
    exact recommend_of_perm perm

/-- A few regions with their revenue. -/
def revenues : Table where
  columns := ["region", "revenue"]
  rows :=
    [[("region", .string "North"), ("revenue", .integer 5)],
      [("region", .string "South"), ("revenue", .integer 7)]]

/-- A column of words that is named for an aggregate. -/
def wordTotals : Table where
  columns := ["total"]
  rows := [[("total", .string "many")]]

/-- A few regions make a pie of their revenue; a total without numbers makes a bar without a height. -/
theorem recommend_by_columns_revenues :
    (recommend revenues).kind = .pie ∧
    (recommend revenues).yAxis = (columnsOf revenues .numeric).head? ∧
    (∃ category, columnsOf revenues .categorical = [category] ∧
      (recommend revenues).xAxis = some category) ∧
    recommend ⟨revenues.columns, revenues.rows.reverse⟩ = recommend revenues ∧
    (recommend wordTotals).kind = .bar ∧ ∃ column, wordTotals.columns = [column] ∧
      columnsOf wordTotals .categorical = [column] ∧
      Text.mentionsAny aggregateWords column = true := by
  have numbers : columnsOf revenues .numeric = ["revenue"] := by decide +kernel
  have isPie : (recommend revenues).kind = .pie := by decide +kernel
  rcases recommend_by_columns revenues with ⟨-, -, -, -, -, -, height, -, -, bottom, order⟩
  rcases recommend_by_columns wordTotals with ⟨-, -, -, -, -, -, -, missing, -⟩
  constructor
  · exact isPie
  constructor
  · exact height (by rw [numbers]; decide) (by rw [isPie]; decide)
  constructor
  · exact bottom isPie
  constructor
  · exact order _ (List.reverse_perm _)
  · exact missing (by decide +kernel) (by decide +kernel)

end Querent.Chart

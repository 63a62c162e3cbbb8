import Mathlib.Data.List.Basic
import Querent.Proofs.Sorting
import Querent.Proofs.Table.Findings
import Querent.Proofs.Table.Totals

/-!
# The leading categories

The comparison of categories agrees with grouping by hand: the rows that have a number in the measured
column are grouped by their label in the column of categories, the numbers of each group are summed up
in the order of the rows, and the two groups with the largest sums are named.  Of equal sums the one
comes first whose label appears first in a row that has a number; a row without one does not count,
even though it has a label.
-/

namespace Querent.Insight

open Statistics

/-! ## Groups of rows -/

/-- Whether a column is the first one of a kind. -/
def IsFirst (kind : String → Bool) (columns : List String) (column : String) : Prop :=
  ∃ before after, columns = before ++ column :: after ∧ kind column = true ∧
    ∀ other ∈ before, kind other = false

theorem find?_eq_some_iff_isFirst {kind : String → Bool} {columns : List String} {column : String} :
    columns.find? kind = some column ↔ IsFirst kind columns column := by
  rw [List.find?_eq_some_iff_append]
  constructor
  · rintro ⟨found, before, after, whole, others⟩
    exact ⟨before, after, whole, found, by simpa using others⟩
  · rintro ⟨before, after, whole, found, others⟩
    exact ⟨found, before, after, whole, by simpa using others⟩

/-- The label by which a row is grouped. -/
def labelIn (category : String) (row : Row) : String :=
  Table.label (Json.lookup row category)

/-- The number that a row has in a column. -/
def numberIn? (measure : String) (row : Row) : Option Float :=
  (Json.lookup row measure).bind Table.number?

/-- The rows that have a number in a column. -/
def measuredRows (measure : String) (rows : List Row) : List Row :=
  rows.filter fun row => (numberIn? measure row).isSome

/-- The numbers of the rows with a label, in the order of the rows. -/
def numbersOf (category measure : String) (rows : List Row) (label : String) : List Float :=
  (rows.filter fun row => labelIn category row == label).filterMap (numberIn? measure)

/-- Whether a label has a total: the sum of the numbers of the rows with the label. -/
def IsTotal (category measure : String) (rows : List Row) (entry : String × Float) : Prop :=
  Totals.sumOf? (numbersOf category measure rows entry.1) = some entry.2

/--
Whether a total comes before another: it is larger, or it is equal and its label appears before the
other label.
-/
def Outranks (labels : List String) (entry other : String × Float) : Prop :=
  rank other.2 < rank entry.2 ∨
    rank other.2 = rank entry.2 ∧ labels.idxOf entry.1 < labels.idxOf other.1

instance (labels : List String) (entry other : String × Float) :
    Decidable (Outranks labels entry other) :=
  inferInstanceAs (Decidable (_ ∨ _))

/--
Whether two labels lead with their totals, the first before all others and the second before all but
the first.  Between equal totals the order of some of the rows decides.
-/
structure Lead (category measure : String) (rows deciding : List Row)
    (first second : String × Float) : Prop where
  first_total : IsTotal category measure rows first
  second_total : IsTotal category measure rows second
  different : first.1 ≠ second.1
  first_outranks : ∀ other, IsTotal category measure rows other → other.1 ≠ first.1 →
    Outranks (deciding.map (labelIn category)) first other
  second_outranks : ∀ other, IsTotal category measure rows other → other.1 ≠ first.1 →
    other.1 ≠ second.1 → Outranks (deciding.map (labelIn category)) second other

variable {category measure label : String} {rows deciding : List Row}

/-! ## Totals of groups -/

theorem measured?_eq_map (category measure : String) (row : Row) :
    measured? category measure row = (numberIn? measure row).map (labelIn category row, ·) := rfl

theorem numbersUnder_measured (category measure label : String) (rows : List Row) :
    Totals.numbersUnder label (rows.filterMap (measured? category measure)) =
      numbersOf category measure rows label := by
  rw [Totals.numbersUnder, numbersOf, List.filter_filterMap, List.map_filterMap,
    List.filterMap_filter]
  apply List.filterMap_congr
  intro row _
  rw [measured?_eq_map]
  cases numberIn? measure row with
  | none => simp
  | some value => by_cases same : labelIn category row = label <;> simp [Option.filter, same]

theorem map_fst_measured (category measure : String) (rows : List Row) :
    (rows.filterMap (measured? category measure)).map Prod.fst =
      (measuredRows measure rows).map (labelIn category) := by
  rw [measuredRows, List.map_filterMap, ← List.filterMap_eq_map, List.filterMap_filter]
  apply List.filterMap_congr
  intro row _
  rw [measured?_eq_map]
  cases numberIn? measure row <;> rfl

/-- Two totals of one label are the same. -/
theorem IsTotal.eq {entry other : String × Float} (total : IsTotal category measure rows entry)
    (also : IsTotal category measure rows other) (same : other.1 = entry.1) : other = entry := by
  apply Prod.ext same
  unfold IsTotal at total also
  rw [same, total, Option.some.injEq] at also
  exact also.symm

/-- A label has a total when some row with a number has the label. -/
theorem exists_isTotal_iff :
    (∃ total, IsTotal category measure rows (label, total)) ↔
      ∃ row ∈ measuredRows measure rows, labelIn category row = label := by
  rw [← List.mem_map, ← map_fst_measured]
  unfold IsTotal
  simp only [← numbersUnder_measured]
  constructor
  · rintro ⟨total, sum⟩
    by_contra absent
    rw [Totals.numbersUnder_eq_nil_iff.2 absent] at sum
    cases sum
  · intro appears
    cases found : Totals.numbersUnder label (rows.filterMap (measured? category measure)) with
    | nil => exact absurd appears (Totals.numbersUnder_eq_nil_iff.1 found)
    | cons first rest => exact ⟨_, rfl⟩

/-- The slots hold exactly the totals. -/
theorem mem_totals_iff (entry : String × Float) :
    entry ∈ (totals rows category measure).slots.toList ↔ IsTotal category measure rows entry := by
  rw [totals, (Totals.addUp_ofPairs _).mem_slots_iff, numbersUnder_measured]
  rfl

/-! ## Ranking -/

/-- Of two different labels only one can come before the other. -/
theorem Outranks.asymm {labels : List String} {entry other : String × Float}
    (outranks : Outranks labels entry other) : ¬ Outranks labels other entry := by
  unfold Outranks at *
  omega

/-- A ranking keeps to the order of the totals and, between equal ones, to the order of the slots. -/
theorem ranked_cons (entry : String × Float) (slots : List (String × Float)) :
    ∃ early late, ranked slots = early ++ late ∧ ranked (entry :: slots) = early ++ entry :: late ∧
      (∀ other ∈ early, rank entry.2 < rank other.2) ∧
      ∀ other ∈ late, rank other.2 ≤ rank entry.2 := by
  have trans (a b c : String × Float) (first : decide (rank b.2 ≤ rank a.2))
      (second : decide (rank c.2 ≤ rank b.2)) : decide (rank c.2 ≤ rank a.2) := by
    rw [decide_eq_true_eq] at *
    exact Int.le_trans second first
  have total (a b : String × Float) :
      (decide (rank b.2 ≤ rank a.2) || decide (rank a.2 ≤ rank b.2)) = true := by
    rw [Bool.or_eq_true, decide_eq_true_eq, decide_eq_true_eq]
    exact Int.le_total (rank b.2) (rank a.2)
  have split := mergeSort_split trans total entry slots
  exact ⟨_, _, split.1, split.2, by simp, by simp⟩

theorem mem_ranked_iff {slots : List (String × Float)} {entry : String × Float} :
    entry ∈ ranked slots ↔ entry ∈ slots :=
  (List.mergeSort_perm _ _).mem_iff

/-- The ranking of slots in the order of their labels puts those first that come before others. -/
theorem pairwise_ranked {labels : List String} {slots : List (String × Float)}
    (ordered : slots.Pairwise fun a b => labels.idxOf a.1 < labels.idxOf b.1) :
    (ranked slots).Pairwise (Outranks labels) := by
  induction slots with
  | nil => simp [ranked]
  | cons entry slots ih =>
    rcases List.pairwise_cons.1 ordered with ⟨first, rest⟩
    rcases ranked_cons entry slots with ⟨early, late, apart, together, larger, smaller⟩
    have sorted := ih rest
    rw [apart] at sorted
    rcases List.pairwise_append.1 sorted with ⟨front, back, across⟩
    have before : ∀ other ∈ early, Outranks labels other entry := by
      intro other member
      left
      exact larger other member
    have behind : ∀ other ∈ late, Outranks labels entry other := by
      intro other member
      have held : other ∈ slots := by
        rw [← mem_ranked_iff, apart]
        exact List.mem_append_right early member
      rcases Int.lt_or_eq_of_le (smaller other member) with less | equal
      · left
        exact less
      · right
        exact ⟨equal, first other held⟩
    rw [together]
    apply List.pairwise_append.2
    constructor
    · exact front
    · constructor
      · exact List.pairwise_cons.2 ⟨behind, back⟩
      · intro other inFront last member
        rcases List.mem_cons.1 member with rfl | inBack
        · exact before other inFront
        · exact across other inFront last inBack

/-! ## The lead -/

/-- Only one pair of labels leads. -/
theorem Lead.unique {first second leader runnerUp : String × Float}
    (lead : Lead category measure rows deciding first second)
    (also : Lead category measure rows deciding leader runnerUp) :
    leader = first ∧ runnerUp = second := by
  have same : leader.1 = first.1 := by
    by_contra apart
    exact (lead.first_outranks leader also.first_total apart).asymm
      (also.first_outranks first lead.first_total (Ne.symm apart))
  have next : runnerUp.1 = second.1 := by
    by_contra apart
    have behind : runnerUp.1 ≠ first.1 := by
      rw [← same]
      exact also.different.symm
    have other : second.1 ≠ leader.1 := by
      rw [same]
      exact lead.different.symm
    exact (lead.second_outranks runnerUp also.second_total behind apart).asymm
      (also.second_outranks second lead.second_total other (Ne.symm apart))
  constructor
  · exact lead.first_total.eq also.first_total same
  · exact lead.second_total.eq also.second_total next

/-- The totals of a measured column in the order of their ranking. -/
theorem pairwise_ranked_totals (category measure : String) (rows : List Row) :
    (ranked (totals rows category measure).slots.toList).Pairwise
      (Outranks ((measuredRows measure rows).map (labelIn category))) := by
  apply pairwise_ranked
  rw [← map_fst_measured]
  exact (Totals.addUp_ofPairs _).pairwise_slots

theorem mem_ranked_totals_iff (entry : String × Float) :
    entry ∈ ranked (totals rows category measure).slots.toList ↔
      IsTotal category measure rows entry :=
  mem_ranked_iff.trans (mem_totals_iff entry)

/-- The first two of the ranking lead. -/
theorem lead_of_ranked {first second : String × Float} {rest : List (String × Float)}
    (order : ranked (totals rows category measure).slots.toList = first :: second :: rest) :
    Lead category measure rows (measuredRows measure rows) first second := by
  have total (entry : String × Float) :
      IsTotal category measure rows entry ↔ entry = first ∨ entry = second ∨ entry ∈ rest := by
    rw [← mem_ranked_totals_iff, order, List.mem_cons, List.mem_cons]
  have sorted := pairwise_ranked_totals category measure rows
  rw [order] at sorted
  rcases List.pairwise_cons.1 sorted with ⟨beforeAll, sortedRest⟩
  have beforeRest := (List.pairwise_cons.1 sortedRest).1
  have firstTotal := (total first).2 (.inl rfl)
  have secondTotal := (total second).2 (.inr (.inl rfl))
  constructor
  case first_total => exact firstTotal
  case second_total => exact secondTotal
  case different =>
    intro same
    have outranks := beforeAll second List.mem_cons_self
    rw [firstTotal.eq secondTotal same.symm] at outranks
    exact outranks.asymm outranks
  case first_outranks =>
    intro other held apart
    rcases (total other).1 held with rfl | further
    · exact absurd rfl apart
    · exact beforeAll other (List.mem_cons.2 further)
  case second_outranks =>
    intro other held apart also
    rcases (total other).1 held with rfl | rfl | further
    · exact absurd rfl apart
    · exact absurd rfl also
    · exact beforeRest other further

/-- Where two labels have a total, the ranking has a first and a second. -/
theorem exists_ranked_of_ne {entry other : String × Float}
    (total : IsTotal category measure rows entry) (also : IsTotal category measure rows other)
    (different : entry ≠ other) :
    ∃ first second rest,
      ranked (totals rows category measure).slots.toList = first :: second :: rest := by
  rw [← mem_ranked_totals_iff] at total also
  match order : ranked (totals rows category measure).slots.toList with
  | [] =>
    rw [order] at total
    cases total
  | [only] =>
    rw [order, List.mem_singleton] at total also
    exact absurd (total.trans also.symm) different
  | first :: second :: rest => exact ⟨first, second, rest, rfl⟩

/-- Whoever leads is first and second in the ranking. -/
theorem Lead.exists_ranked {first second : String × Float}
    (lead : Lead category measure rows (measuredRows measure rows) first second) :
    ∃ rest, ranked (totals rows category measure).slots.toList = first :: second :: rest := by
  have apart : first ≠ second := by
    intro same
    exact lead.different (congrArg Prod.fst same)
  rcases exists_ranked_of_ne lead.first_total lead.second_total apart with
    ⟨leader, runnerUp, rest, order⟩
  rcases lead.unique (lead_of_ranked order) with ⟨rfl, rfl⟩
  exact ⟨rest, order⟩

/-- Two labels lead when the rows with a number have two different labels. -/
theorem exists_lead_iff :
    (∃ first second, Lead category measure rows (measuredRows measure rows) first second) ↔
      ∃ row ∈ measuredRows measure rows, ∃ other ∈ measuredRows measure rows,
        labelIn category row ≠ labelIn category other := by
  constructor
  · rintro ⟨first, second, lead⟩
    rcases exists_isTotal_iff.1 ⟨_, lead.first_total⟩ with ⟨row, member, named⟩
    rcases exists_isTotal_iff.1 ⟨_, lead.second_total⟩ with ⟨other, also, differently⟩
    exact ⟨row, member, other, also, by rw [named, differently]; exact lead.different⟩
  · rintro ⟨row, member, other, also, different⟩
    rcases exists_isTotal_iff.2 ⟨row, member, rfl⟩ with ⟨total, held⟩
    rcases exists_isTotal_iff.2 ⟨other, also, rfl⟩ with ⟨otherTotal, otherHeld⟩
    have apart : (labelIn category row, total) ≠ (labelIn category other, otherTotal) := by
      intro same
      exact different (congrArg Prod.fst same)
    rcases exists_ranked_of_ne held otherHeld apart with ⟨first, second, rest, order⟩
    exact ⟨first, second, lead_of_ranked order⟩

/-! ## The comparison -/

variable {table : Table} {insight : Insight}

/-- The comparison names the two labels that lead. -/
theorem leaderOf_eq_some_iff :
    leaderOf table = some insight ↔ ∃ category measure first second,
      IsFirst (Text.mentionsAny categoryWords) table.columns category ∧
      IsFirst (Table.isNumeric table.rows) table.columns measure ∧
      Lead category measure table.rows (measuredRows measure table.rows) first second ∧
      insight = leader category first second := by
  unfold leaderOf
  simp only [bind, Option.bind_eq_some_iff, find?_eq_some_iff_isFirst]
  constructor
  · rintro ⟨category, isCategory, measure, isMeasure, result⟩
    split at result
    next first second rest order =>
      rw [Option.some.injEq] at result
      exact ⟨category, measure, first, second, isCategory, isMeasure, lead_of_ranked order,
        result.symm⟩
    next => cases result
  · rintro ⟨category, measure, first, second, isCategory, isMeasure, lead, rfl⟩
    rcases lead.exists_ranked with ⟨rest, order⟩
    exact ⟨category, isCategory, measure, isMeasure, by rw [order]⟩

/-! ## Among all insights -/

/-- Insights of another kind do not compare. -/
theorem Block.filter_comparison {shows : String → Insight → Prop} {columns chosen : List String}
    {insights : List Insight} (block : Block shows columns chosen insights)
    (kinds : ∀ {column insight}, shows column insight → insight.kind ≠ .comparison) :
    insights.filter (fun insight => insight.kind == .comparison) = [] := by
  apply List.filter_eq_nil_iff.2
  intro insight member
  rcases block.exists_shown member with ⟨column, -, shown⟩
  rw [beq_iff_eq]
  exact kinds shown

theorem kind_of_leaderOf (found : leaderOf table = some insight) : insight.kind = .comparison := by
  rcases leaderOf_eq_some_iff.1 found with ⟨_, _, _, _, _, _, _, rfl⟩
  rfl

/-- Without rows nothing is compared. -/
theorem leaderOf_eq_none (empty : table.rows = []) : leaderOf table = none := by
  apply Option.eq_none_iff_forall_ne_some.2
  intro insight found
  rcases leaderOf_eq_some_iff.1 found with ⟨_, measure, _, _, _, ⟨_, _, _, numeric, _⟩, _⟩
  rw [empty] at numeric
  cases numeric

theorem filter_comparison_leaderOf (table : Table) :
    (leaderOf table).toList.filter (fun insight => insight.kind == .comparison) =
      (leaderOf table).toList := by
  apply List.filter_eq_self.2
  intro insight member
  rw [beq_iff_eq]
  exact kind_of_leaderOf (Option.mem_toList.1 member)

/-- The comparison is the only insight of its kind. -/
theorem filter_comparison_all (table : Table) :
    (all table).filter (fun insight => insight.kind == .comparison) =
      (leaderOf table).toList := by
  unfold all
  split
  next none =>
    rw [leaderOf_eq_none (List.isEmpty_iff.1 none)]
    rfl
  next =>
    have size : (Insight.size table.rows.length table.columns.length).kind ≠ .comparison := by
      intro same
      cases same
    rcases block_summaries table.rows table.columns with ⟨_, summaries⟩
    rcases block_trends table with ⟨_, trends⟩
    rcases block_anomalies table.rows table.columns with ⟨_, anomalies⟩
    rw [List.filter_cons_of_neg (by simpa using size), List.filter_append, List.filter_append,
      List.filter_append, filter_comparison_leaderOf,
      summaries.filter_comparison fun shown => by simp [shown.kind_eq],
      trends.filter_comparison fun shown => by simp [shown.kind_eq],
      anomalies.filter_comparison fun shown => by simp [shown.kind_eq]]
    simp

/--
The comparison of categories agrees with grouping by hand.  There is one exactly if some column names
a category, some column is numeric, and the rows with a number in the first numeric column have at
least two labels in the first column of categories.  It names the label with the largest total and
the label with the largest total of the rest, between equal totals the label that appears first in
the rows with a number.
-/
theorem leaderOf_agrees_with_grouping (table : Table) :
    ((leaderOf table).isSome ↔ ∃ category measure,
      IsFirst (Text.mentionsAny categoryWords) table.columns category ∧
      IsFirst (Table.isNumeric table.rows) table.columns measure ∧
      ∃ row ∈ measuredRows measure table.rows, ∃ other ∈ measuredRows measure table.rows,
        labelIn category row ≠ labelIn category other) ∧
    (∀ insight, leaderOf table = some insight ↔ ∃ category measure first second,
      IsFirst (Text.mentionsAny categoryWords) table.columns category ∧
      IsFirst (Table.isNumeric table.rows) table.columns measure ∧
      Lead category measure table.rows (measuredRows measure table.rows) first second ∧
      insight = leader category first second) ∧
    (all table).filter (fun insight => insight.kind == .comparison) =
      (leaderOf table).toList := by
  constructor
  · rw [Option.isSome_iff_exists]
    constructor
    · rintro ⟨insight, found⟩
      rcases leaderOf_eq_some_iff.1 found with
        ⟨category, measure, first, second, isCategory, isMeasure, lead, _⟩
      exact ⟨category, measure, isCategory, isMeasure, exists_lead_iff.1 ⟨first, second, lead⟩⟩
    · rintro ⟨category, measure, isCategory, isMeasure, different⟩
      rcases exists_lead_iff.2 different with ⟨first, second, lead⟩
      exact ⟨_, leaderOf_eq_some_iff.2
        ⟨category, measure, first, second, isCategory, isMeasure, lead, rfl⟩⟩
  · constructor
    · intro insight
      exact leaderOf_eq_some_iff
    · exact filter_comparison_all table

/-- A table in which a label appears first in a row without a number. -/
def unmeasuredFirst : Table where
  columns := ["region", "units"]
  rows :=
    [[("region", .string "North"), ("units", .null)],
      [("region", .string "South"), ("units", .integer 5)],
      [("region", .string "North"), ("units", .integer 5)]]

/-- Between equal totals it is not the first of all rows with one of the labels that decides. -/
theorem not_forall_lead_by_all_rows :
    ¬ ∀ table insight, leaderOf table = some insight → ∃ category measure first second,
      IsFirst (Text.mentionsAny categoryWords) table.columns category ∧
      IsFirst (Table.isNumeric table.rows) table.columns measure ∧
      Lead category measure table.rows table.rows first second ∧
      insight = leader category first second := by
  intro claimed
  have isCategory : unmeasuredFirst.columns.find? (Text.mentionsAny categoryWords) =
      some "region" := by decide +kernel
  have isMeasure : unmeasuredFirst.columns.find? (Table.isNumeric unmeasuredFirst.rows) =
      some "units" := by decide +kernel
  have south : IsTotal "region" "units" unmeasuredFirst.rows ("South", Float.ofInt 5) := rfl
  have north : IsTotal "region" "units" unmeasuredFirst.rows ("North", Float.ofInt 5) := rfl
  rcases exists_ranked_of_ne south north (by simp) with ⟨first, second, rest, order⟩
  have lead := lead_of_ranked order
  rcases claimed unmeasuredFirst (leader "region" first second) (leaderOf_eq_some_iff.2
    ⟨_, _, first, second, find?_eq_some_iff_isFirst.1 isCategory,
      find?_eq_some_iff_isFirst.1 isMeasure, lead, rfl⟩) with
    ⟨category, measure, _, _, _, sameMeasure, also, same⟩
  cases same
  rw [← find?_eq_some_iff_isFirst, isMeasure, Option.some.injEq] at sameMeasure
  subst sameMeasure
  -- Both labels have the same total, so the order of the rows alone decides.
  have held := (mem_totals_iff first).2 lead.first_total
  have slots : (totals unmeasuredFirst.rows "region" "units").slots.toList =
      [("South", Float.ofInt 5), ("North", Float.ofInt 5)] := rfl
  rw [slots] at held
  rcases List.mem_pair.1 held with rfl | rfl
  · exact absurd (also.first_outranks _ north (by decide)) (by decide +kernel)
  · exact absurd (lead.first_outranks _ south (by decide)) (by decide +kernel)

end Querent.Insight

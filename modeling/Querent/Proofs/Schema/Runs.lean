import Mathlib.Data.List.SplitBy
import Querent.Schema

/-!
# Statements for runs of columns

The columns are read one after the other, with one table under way.  What comes out is the rendering
by maximal runs: the columns are divided into runs of neighbouring columns of one table, as long as
possible, and each run is one statement.  No column is lost, printed twice or put under another table,
and the last table is not forgotten.  If the columns of every table are neighbours, each table has one
statement.  Two lists of columns that part where a table ends are rendered one after the other.
-/

namespace Querent.Schema

/-! ## Runs -/

/-- Whether two columns are of one table. -/
def sameTable (column other : ColumnDefinition) : Bool :=
  column.key == other.key

/-- The line of a column in a statement. -/
def columnLine (column : ColumnDefinition) : String :=
  "    \"" ++ column.name ++ "\" " ++ column.type ++ (if column.nullable then "" else " NOT NULL")

/--
The statement for the columns of a run, which are all of the table of the first one.  The name of the
schema stands before that of the table, unless the schema is `main`.
-/
def runText : List ColumnDefinition → String
  | [] => ""
  | first :: rest =>
    "CREATE TABLE " ++ (if first.schema = "main" then "" else "\"" ++ first.schema ++ "\".") ++
      ("\"" ++ first.table ++ "\"") ++ " (\n" ++
      ",\n".intercalate ((first :: rest).map columnLine) ++ "\n);"

theorem tableName_eq (schema table : String) :
    tableName schema table =
      (if schema = "main" then "" else "\"" ++ schema ++ "\".") ++ ("\"" ++ table ++ "\"") := by
  rw [tableName]
  by_cases main : schema = "main"
  · simp [main, unnamedSchema]
  · have joined : "\".\"" = "\"." ++ "\"" := rfl
    simp only [unnamedSchema, main, beq_iff_eq, if_false, joined, String.append_assoc]

theorem runText_cons (first : ColumnDefinition) (rest : List ColumnDefinition) :
    runText (first :: rest) = "CREATE TABLE " ++ tableName first.schema first.table ++ " (\n" ++
      ",\n".intercalate ((first :: rest).map columnText) ++ "\n);" := by
  have lines : columnLine = columnText := rfl
  rw [runText, lines, tableName_eq]
  simp only [String.append_assoc]

/-- Whether columns are divided into maximal runs of columns of one table. -/
structure AreRuns (columns : List ColumnDefinition) (runs : List (List ColumnDefinition)) : Prop where
  whole : runs.flatten = columns
  inhabited : ∀ run ∈ runs, run ≠ []
  uniform : ∀ run ∈ runs, ∀ column ∈ run, ∀ other ∈ run, column.key = other.key
  parted : runs.IsChain fun run next => ∀ column ∈ run, ∀ other ∈ next, column.key ≠ other.key

/-- The columns of a table. -/
def TableDefinition.run (definition : TableDefinition) : List ColumnDefinition :=
  definition.columns.toList

@[simp]
theorem TableDefinition.run_ofColumn (column : ColumnDefinition) :
    (TableDefinition.ofColumn column).run = [column] := rfl

@[simp]
theorem TableDefinition.run_push (definition : TableDefinition) (column : ColumnDefinition) :
    (definition.push column).run = definition.run ++ [column] := by
  simp [TableDefinition.run]

variable {columns later : List ColumnDefinition} {column : ColumnDefinition}
  {run : List ColumnDefinition} {runs : List (List ColumnDefinition)}

namespace AreRuns

theorem nil : AreRuns [] [] := by
  constructor <;> simp

/-- There is only one way to divide columns into maximal runs. -/
theorem eq_splitBy (areRuns : AreRuns columns runs) : columns.splitBy sameTable = runs := by
  apply List.splitBy_eq_iff.2
  constructor
  · exact areRuns.whole.symm
  constructor
  · intro member
    exact areRuns.inhabited [] member rfl
  constructor
  · intro run member
    apply List.Pairwise.isChain
    apply List.pairwise_of_forall_mem_list
    intro column inRun other also
    exact beq_iff_eq.2 (areRuns.uniform run member column inRun other also)
  · apply areRuns.parted.imp_of_mem_imp
    intro run next member also different
    have nonempty := areRuns.inhabited run member
    have nonemptyNext := areRuns.inhabited next also
    exact ⟨nonempty, nonemptyNext, beq_eq_false_iff_ne.2
      (different _ (List.getLast_mem nonempty) _ (List.head_mem nonemptyNext))⟩

/-- A further column of the last table makes the last run longer. -/
theorem extend {front : List (List ColumnDefinition)} (areRuns : AreRuns columns (front ++ [run]))
    (same : ∀ other ∈ run, other.key = column.key) :
    AreRuns (columns ++ [column]) (front ++ [run ++ [column]]) := by
  have split := List.isChain_append.1 areRuns.parted
  constructor
  case whole =>
    rw [← areRuns.whole]
    simp
  case inhabited =>
    intro part member
    rcases List.mem_append.1 member with before | last
    · exact areRuns.inhabited part (List.mem_append_left _ before)
    · rw [List.mem_singleton.1 last]
      simp
  case uniform =>
    intro part member
    rcases List.mem_append.1 member with before | last
    · exact areRuns.uniform part (List.mem_append_left _ before)
    · have ofTable : ∀ other ∈ part, other.key = column.key := by
        intro other inPart
        rw [List.mem_singleton.1 last, List.mem_append, List.mem_singleton] at inPart
        rcases inPart with inRun | rfl
        · exact same other inRun
        · rfl
      intro a inPart b also
      rw [ofTable a inPart, ofTable b also]
  case parted =>
    apply List.isChain_append.2
    constructor
    · exact split.1
    constructor
    · exact List.isChain_singleton _
    · intro part isLast next isNext a inPart b inNext
      obtain rfl : run ++ [column] = next := by simpa using isNext
      have apart := split.2.2 part isLast run (by simp) a inPart
      rcases List.mem_append.1 inNext with inRun | isColumn
      · exact apart b inRun
      · -- The last run is not empty, so the column is compared with one that stood there before.
        rcases List.exists_mem_of_ne_nil run (areRuns.inhabited run (by simp)) with ⟨other, inRun⟩
        rw [List.mem_singleton.1 isColumn, ← same other inRun]
        exact apart other inRun

/-- A column of another table than the last one starts a run. -/
theorem start (areRuns : AreRuns columns runs)
    (different : ∀ run ∈ runs.getLast?, ∀ other ∈ run, other.key ≠ column.key) :
    AreRuns (columns ++ [column]) (runs ++ [[column]]) := by
  constructor
  case whole =>
    rw [← areRuns.whole]
    simp
  case inhabited =>
    intro part member
    rcases List.mem_append.1 member with before | last
    · exact areRuns.inhabited part before
    · rw [List.mem_singleton.1 last]
      simp
  case uniform =>
    intro part member
    rcases List.mem_append.1 member with before | last
    · exact areRuns.uniform part before
    · rw [List.mem_singleton.1 last]
      simp
  case parted =>
    apply List.isChain_append.2
    constructor
    · exact areRuns.parted
    constructor
    · exact List.isChain_singleton _
    · intro part isLast next isNext a inPart b inNext
      obtain rfl : [column] = next := by simpa using isNext
      rw [List.mem_singleton.1 inNext]
      exact different part isLast a inPart

end AreRuns

/-! ## The draft -/

/-- Whether a draft has the runs of the columns read so far, each under its own table. -/
structure Draft.Holds (draft : Draft) (columns : List ColumnDefinition) : Prop where
  areRuns : AreRuns columns (draft.tables.map TableDefinition.run)
  owned : ∀ definition ∈ draft.tables, ∀ column ∈ definition.run, column.key = definition.key
  started : draft.current = none → draft.complete = #[]

namespace Draft

variable {draft : Draft}

theorem holds_empty : empty.Holds [] := by
  constructor
  · exact AreRuns.nil
  · intro definition member
    cases member
  · intro _
    rfl

/-- What a further column changes: nothing stood there before, the last table grows, or one is added. -/
theorem tables_add (holds : draft.Holds columns) (column : ColumnDefinition) :
    (draft.tables = [] ∧ (draft.add column).tables = [.ofColumn column]) ∨
    ∃ front definition, draft.tables = front ++ [definition] ∧
      (definition.key = column.key ∧
          (draft.add column).tables = front ++ [definition.push column] ∨
        definition.key ≠ column.key ∧
          (draft.add column).tables = front ++ [definition] ++ [.ofColumn column]) := by
  unfold add tables
  cases under : draft.current with
  | none =>
    left
    simp [holds.started under]
  | some definition =>
    right
    by_cases same : definition.key = column.key <;>
      exact ⟨draft.complete.toList, definition, by simp [same]⟩

theorem current_add (draft : Draft) (column : ColumnDefinition) :
    (draft.add column).current ≠ none := by
  unfold add
  split
  next => split <;> simp
  next => simp

/-- A further column leaves the draft right. -/
theorem Holds.add (holds : draft.Holds columns) (column : ColumnDefinition) :
    (draft.add column).Holds (columns ++ [column]) := by
  have started : (draft.add column).current = none → (draft.add column).complete = #[] :=
    fun none => absurd none (draft.current_add column)
  have areRuns := holds.areRuns
  have owned := holds.owned
  rcases tables_add holds column with
    ⟨before, after⟩ | ⟨front, definition, before, ⟨same, after⟩ | ⟨different, after⟩⟩
  · rw [before] at areRuns
    constructor
    · rw [after]
      exact areRuns.start (by simp)
    · simp [after]
    · exact started
  · rw [before] at areRuns owned
    rw [List.map_append, List.map_singleton] at areRuns
    have ofTable := owned definition (by simp)
    constructor
    · rw [after, List.map_append, List.map_singleton, TableDefinition.run_push]
      apply areRuns.extend
      intro other inRun
      rw [ofTable other inRun, same]
    · intro other member
      rw [after, List.mem_append, List.mem_singleton] at member
      rcases member with inFront | rfl
      · exact owned other (List.mem_append_left _ inFront)
      · intro inRun isColumn
        rw [TableDefinition.run_push, List.mem_append, List.mem_singleton] at isColumn
        rcases isColumn with earlier | rfl
        · exact ofTable inRun earlier
        · exact same.symm
    · exact started
  · rw [before] at areRuns owned
    rw [List.map_append, List.map_singleton] at areRuns
    constructor
    · rw [after, List.map_append, List.map_append, List.map_singleton, List.map_singleton]
      apply areRuns.start
      intro run isLast other inRun
      obtain rfl : definition.run = run := by simpa using isLast
      rw [owned definition (by simp) other inRun]
      exact different
    · intro other member
      rw [after, List.mem_append, List.mem_singleton] at member
      rcases member with earlier | rfl
      · exact owned other earlier
      · simp
    · exact started

/-- However many columns are read, the draft is right. -/
theorem Holds.foldl (holds : draft.Holds columns) (later : List ColumnDefinition) :
    (later.foldl Draft.add draft).Holds (columns ++ later) := by
  induction later generalizing draft columns with
  | nil =>
    rw [List.append_nil]
    exact holds
  | cons column later ih =>
    rw [List.append_cons]
    exact ih (holds.add column)

theorem holds_foldl (columns : List ColumnDefinition) : (columns.foldl add empty).Holds columns :=
  holds_empty.foldl columns

end Draft

/-! ## The rendering -/

theorem areRuns_tables (columns : List ColumnDefinition) :
    AreRuns columns ((tables columns).map TableDefinition.run) :=
  (Draft.holds_foldl columns).areRuns

/-- The tables are those of the maximal runs. -/
theorem map_run_tables (columns : List ColumnDefinition) :
    (tables columns).map TableDefinition.run = columns.splitBy sameTable :=
  (areRuns_tables columns).eq_splitBy.symm

theorem areRuns_splitBy (columns : List ColumnDefinition) :
    AreRuns columns (columns.splitBy sameTable) := by
  rw [← map_run_tables]
  exact areRuns_tables columns

/-- Every table has columns, and they are its own. -/
theorem run_of_mem_tables {definition : TableDefinition} (member : definition ∈ tables columns) :
    definition.run ≠ [] ∧ ∀ column ∈ definition.run, column.key = definition.key := by
  constructor
  · exact (areRuns_tables columns).inhabited _ (List.mem_map_of_mem member)
  · exact (Draft.holds_foldl columns).owned definition member

/-- The statement of a table is that of its run. -/
theorem tableText_eq_runText {definition : TableDefinition} (member : definition ∈ tables columns) :
    tableText definition = runText definition.run := by
  rcases run_of_mem_tables member with ⟨nonempty, owned⟩
  rcases List.exists_cons_of_ne_nil nonempty with ⟨first, rest, order⟩
  have named := owned first (by rw [order]; exact List.mem_cons_self)
  rcases Prod.mk.inj named with ⟨schema, table⟩
  rw [order, runText_cons, ← order, schema, table]
  rfl

theorem text_eq_intercalate (columns : List ColumnDefinition) :
    text columns = "\n\n".intercalate ((columns.splitBy sameTable).map runText) := by
  rw [text, ← map_run_tables, List.map_map]
  congr 1
  exact List.map_congr_left fun definition member => tableText_eq_runText member

/-! ## Tables whose columns are neighbours -/

/-- Whether the columns of every table are neighbours: none of another table stands between two. -/
def Neighbouring (columns : List ColumnDefinition) : Prop :=
  ∀ first between last, List.Sublist [first, between, last] columns → first.key = last.key →
    between.key = first.key

theorem Neighbouring.of_append {earlier : List ColumnDefinition}
    (neighbouring : Neighbouring (earlier ++ later)) : Neighbouring later := by
  intro first between last inOrder
  exact neighbouring first between last (inOrder.trans (List.sublist_append_right earlier later))

/-- If the columns of every table are neighbours, no two runs are of one table. -/
theorem AreRuns.pairwise (areRuns : AreRuns columns runs) (neighbouring : Neighbouring columns) :
    runs.Pairwise fun run other => ∀ a ∈ run, ∀ b ∈ other, a.key ≠ b.key := by
  induction runs generalizing columns with
  | nil => exact List.Pairwise.nil
  | cons run rest ih =>
    have whole := areRuns.whole
    rw [List.flatten_cons] at whole
    subst whole
    have tail : AreRuns rest.flatten rest := {
      whole := rfl
      inhabited := fun part member => areRuns.inhabited part (List.mem_cons_of_mem _ member)
      uniform := fun part member => areRuns.uniform part (List.mem_cons_of_mem _ member)
      parted := areRuns.parted.tail }
    apply List.Pairwise.cons
    · intro other member a inRun b inOther same
      cases rest with
      | nil => cases member
      | cons next further =>
        have apart := areRuns.parted.rel
        rcases List.mem_cons.1 member with rfl | behind
        · exact apart a inRun b inOther same
        · -- Some column of the next run stands between the two.
          rcases List.exists_mem_of_ne_nil next (tail.inhabited next List.mem_cons_self) with
            ⟨between, inNext⟩
          apply apart a inRun between inNext
          symm
          apply neighbouring a between b _ same
          rw [List.flatten_cons]
          have inFurther : b ∈ further.flatten := List.mem_flatten.2 ⟨other, behind, inOther⟩
          exact (List.singleton_sublist.2 inRun).append
            ((List.singleton_sublist.2 inNext).append (List.singleton_sublist.2 inFurther))
    · exact ih tail neighbouring.of_append

/-- If the columns of every table are neighbours, each table has one run. -/
theorem AreRuns.countP_eq_one (areRuns : AreRuns columns runs) (neighbouring : Neighbouring columns)
    (member : column ∈ columns) : runs.countP (fun run => run.any (sameTable column)) = 1 := by
  have apart := areRuns.pairwise neighbouring
  rw [← areRuns.whole] at member
  rcases List.mem_flatten.1 member with ⟨run, isRun, inRun⟩
  rcases List.append_of_mem isRun with ⟨before, after, rfl⟩
  rcases List.pairwise_append.1 apart with ⟨-, back, across⟩
  have absent (other : List ColumnDefinition) (different : ∀ b ∈ other, column.key ≠ b.key) :
      ¬ other.any (sameTable column) = true := by
    rw [List.any_eq_true]
    rintro ⟨b, inOther, same⟩
    exact different b inOther (beq_iff_eq.1 same)
  have front : before.countP (fun run => run.any (sameTable column)) = 0 := by
    apply List.countP_eq_zero.2
    intro other inFront
    exact absent other fun b inOther same =>
      across other inFront run List.mem_cons_self b inOther column inRun same.symm
  have behind : after.countP (fun run => run.any (sameTable column)) = 0 := by
    apply List.countP_eq_zero.2
    intro other inBack
    exact absent other ((List.pairwise_cons.1 back).1 other inBack column inRun)
  have here : run.any (sameTable column) = true :=
    List.any_eq_true.2 ⟨column, inRun, beq_self_eq_true _⟩
  rw [List.countP_append, front, List.countP_cons, behind, if_pos here]

/-! ## Results -/

theorem splitBy_ne_nil (nonempty : columns ≠ []) :
    (columns.splitBy sameTable).map runText ≠ [] := by
  intro none
  exact nonempty (List.splitBy_eq_nil.1 (List.map_eq_nil_iff.1 none))

/-- Columns that part where a table ends are rendered one after the other. -/
theorem text_append (nonempty : columns ≠ []) (more : later ≠ [])
    (parted : ∀ last ∈ columns.getLast?, ∀ first ∈ later.head?, last.key ≠ first.key) :
    text (columns ++ later) = text columns ++ "\n\n" ++ text later := by
  have split : (columns ++ later).splitBy sameTable =
      columns.splitBy sameTable ++ later.splitBy sameTable := by
    apply List.splitBy_append
    intro last isLast first isFirst
    exact beq_eq_false_iff_ne.2 (parted last isLast first isFirst)
  rw [text_eq_intercalate, text_eq_intercalate, text_eq_intercalate, split, List.map_append,
    String.intercalate_append_of_ne_nil (splitBy_ne_nil nonempty) (splitBy_ne_nil more)]

/--
The rendering is the one by maximal runs: each run of neighbouring columns of one table is one
statement, and the statements stand in order with a blank line between them.  If the columns of every
table are neighbours, each table has exactly one statement.  Columns that part where a table ends are
rendered one after the other.
-/
theorem text_eq_joined_runs (columns : List ColumnDefinition) :
    text columns = "\n\n".intercalate ((columns.splitBy sameTable).map runText) ∧
    AreRuns columns (columns.splitBy sameTable) ∧
    (Neighbouring columns → ∀ column ∈ columns,
      (columns.splitBy sameTable).countP (fun run => run.any (sameTable column)) = 1) ∧
    ∀ later, columns ≠ [] → later ≠ [] →
      (∀ last ∈ columns.getLast?, ∀ first ∈ later.head?, last.key ≠ first.key) →
      text (columns ++ later) = text columns ++ "\n\n" ++ text later := by
  constructor
  · exact text_eq_intercalate columns
  constructor
  · exact areRuns_splitBy columns
  constructor
  · intro neighbouring column member
    exact (areRuns_splitBy columns).countP_eq_one neighbouring member
  · intro later nonempty more parted
    exact text_append nonempty more parted

/-- Two columns of a table. -/
def orderColumns : List ColumnDefinition :=
  [⟨"main", "orders", "id", "INTEGER", false⟩,
    ⟨"main", "orders", "total_amount", "DECIMAL(10,2)", true⟩]

/-- A column of another table in a schema of its own. -/
def regionColumns : List ColumnDefinition :=
  [⟨"sales", "regions", "name", "VARCHAR", true⟩]

theorem neighbouring_orderColumns : Neighbouring orderColumns := by
  intro first between last inOrder
  exact absurd inOrder.length_le (Nat.not_succ_le_self 2)

/-- The table of two columns has one statement, and the next table follows it. -/
theorem text_eq_joined_runs_orders :
    Neighbouring orderColumns ∧
    (∀ column ∈ orderColumns,
      (orderColumns.splitBy sameTable).countP (fun run => run.any (sameTable column)) = 1) ∧
    text (orderColumns ++ regionColumns) = text orderColumns ++ "\n\n" ++ text regionColumns := by
  rcases text_eq_joined_runs orderColumns with ⟨-, -, once, appended⟩
  constructor
  · exact neighbouring_orderColumns
  constructor
  · exact once neighbouring_orderColumns
  · exact appended regionColumns (by decide) (by decide) (by decide)

example : text (orderColumns ++ regionColumns) =
    "CREATE TABLE \"orders\" (\n    \"id\" INTEGER NOT NULL,\n    \"total_amount\" DECIMAL(10,2)\n);" ++
    "\n\nCREATE TABLE \"sales\".\"regions\" (\n    \"name\" VARCHAR\n);" := by
  decide +kernel

end Querent.Schema

import Mathlib.Data.List.Perm.Basic
import Mathlib.Logic.Relation
import Querent.Table.ColumnKind

/-!
# Kinds of columns and the values in them

The kind of a column is told from how many of its values fit each kind.  So the order of the values,
and with it the order of the rows, makes no difference, nor do rows without a value in the column, nor
what else is in a row.  Rows that are edited in these ways are exactly those with the same values in the
column up to their order.
-/

namespace Querent

variable {cells others : List Json} {rows reordered : List Row}

theorem Table.values_of_perm (perm : reordered.Perm rows) (column : String) :
    (values reordered column).Perm (values rows column) :=
  perm.filterMap _

/-! ## Edited rows -/

namespace Table

/-- The value that a row has in a column, if one is present. -/
def valueIn? (column : String) (row : Row) : Option Json :=
  present? (Json.lookup row column)

/-- A change of the rows that keeps the values in a column, though not their order. -/
inductive Edit (column : String) : List Row → List Row → Prop where
  | reorder {rows others : List Row} (perm : rows.Perm others) : Edit column rows others
  | insert {row : Row} (before after : List Row) (absent : valueIn? column row = none) :
      Edit column (before ++ after) (before ++ row :: after)
  | remove {row : Row} (before after : List Row) (absent : valueIn? column row = none) :
      Edit column (before ++ row :: after) (before ++ after)
  | replace {row other : Row} (before after : List Row)
      (same : valueIn? column row = valueIn? column other) :
      Edit column (before ++ row :: after) (before ++ other :: after)

variable {column : String}

theorem Edit.symm (edit : Edit column rows reordered) : Edit column reordered rows := by
  cases edit with
  | reorder perm => exact .reorder perm.symm
  | insert before after absent => exact .remove before after absent
  | remove before after absent => exact .insert before after absent
  | replace before after same => exact .replace before after same.symm

instance : Std.Symm (Edit column) :=
  ⟨fun _ _ => Edit.symm⟩

theorem values_eq_filterMap (rows : List Row) (column : String) :
    values rows column = rows.filterMap (valueIn? column) := rfl

/-- An edit keeps the values in the column up to their order. -/
theorem Edit.values_perm (edit : Edit column rows reordered) :
    (values rows column).Perm (values reordered column) := by
  simp only [values_eq_filterMap]
  cases edit with
  | reorder perm => exact perm.filterMap _
  | insert before after absent | remove before after absent =>
    rw [List.filterMap_append, List.filterMap_append, List.filterMap_cons_none absent]
  | replace before after same =>
    rw [List.filterMap_append, List.filterMap_append, List.filterMap_cons, List.filterMap_cons, same]

/-- A value that is present is present by itself. -/
theorem present?_some {found : Option Json} {value : Json} (present : present? found = some value) :
    present? (some value) = some value := by
  cases found with
  | none => cases present
  | some cell => cases cell <;> cases present <;> rfl

theorem valueIn?_singleton {row : Row} {value : Json} (present : valueIn? column row = some value) :
    valueIn? column [(column, value)] = some value := by
  have found : Json.lookup [(column, value)] column = some value := by simp [Json.lookup]
  rw [valueIn?, found]
  exact present?_some present

/-- Edits lead to rows that hold a value of the column each, and nothing else. -/
theorem edits_to_values (column : String) (before rows : List Row) :
    Relation.ReflTransGen (Edit column) (before ++ rows)
      (before ++ (values rows column).map fun value => [(column, value)]) := by
  induction rows generalizing before with
  | nil => exact .refl
  | cons row rows ih =>
    rw [values_eq_filterMap]
    cases found : valueIn? column row with
    | none =>
      rw [List.filterMap_cons_none found]
      exact .head (.remove before rows found) (ih before)
    | some value =>
      rw [List.filterMap_cons_some found, List.map_cons]
      have alone := valueIn?_singleton found
      have rest := ih (before ++ [[(column, value)]])
      simp only [List.append_assoc, List.singleton_append] at rest
      exact .head (.replace before rows (found.trans alone.symm)) rest

/-- Rows come from others by edits exactly if they have the same values, in any order. -/
theorem edits_iff_values_perm :
    Relation.ReflTransGen (Edit column) rows reordered ↔
      (values rows column).Perm (values reordered column) := by
  constructor
  · intro edits
    induction edits with
    | refl => exact .refl _
    | tail _ edit ih => exact ih.trans edit.values_perm
  · intro perm
    have back := symm (edits_to_values column [] reordered)
    exact (edits_to_values column [] rows).trans (.head (.reorder (perm.map _)) back)

end Table

/-! ## The kind of a column -/

namespace ColumnKind

theorem mostly_of_perm (perm : cells.Perm others) (fits : Json → Bool) :
    mostly fits cells = mostly fits others := by
  rw [mostly, mostly, perm.countP_eq, perm.length_eq]

/-- The order of the values makes no difference to the kind of a column. -/
theorem ofValues_of_perm (perm : cells.Perm others) : ofValues cells = ofValues others := by
  rw [ofValues, ofValues, perm.isEmpty_eq, mostly_of_perm perm, mostly_of_perm perm,
    mostly_of_perm perm]

theorem infer_of_perm (perm : reordered.Perm rows) (column : String) :
    infer reordered column = infer rows column :=
  ofValues_of_perm (Table.values_of_perm perm column)

theorem ofValues_eq_unknown_iff : ofValues cells = unknown ↔ cells = [] := by
  constructor
  · intro isUnknown
    unfold ofValues at isUnknown
    split at isUnknown
    next none => exact List.isEmpty_iff.1 none
    next =>
      split at isUnknown
      next => cases isUnknown
      next =>
        split at isUnknown
        next => cases isUnknown
        next => split at isUnknown <;> cases isUnknown
  · rintro rfl
    exact ofValues_nil

end ColumnKind

/-- The order of the rows makes no difference to the kinds of the columns. -/
theorem Table.columnKinds_of_perm (perm : reordered.Perm rows) (columns : List String) :
    (Table.mk columns reordered).columnKinds = (Table.mk columns rows).columnKinds :=
  List.map_congr_left fun column _ => congrArg (column, ·) (ColumnKind.infer_of_perm perm column)

/-- The kinds of columns are told by name: columns of one name are of one kind. -/
theorem Table.mem_columnKinds_iff {table : Table} {name : String} {kind : ColumnKind} :
    (name, kind) ∈ table.columnKinds ↔
      name ∈ table.columns ∧ kind = ColumnKind.infer table.rows name := by
  rw [columnKinds, List.mem_map]
  constructor
  · rintro ⟨column, listed, same⟩
    cases same
    exact ⟨listed, rfl⟩
  · rintro ⟨listed, rfl⟩
    exact ⟨name, listed, rfl⟩

/--
The kind of a column depends only on the values that are present in it, in whichever order: two lists of
rows with the same values give the same kind, and these are the lists that come from each other by
changing the order, adding or removing rows without a value, and changing other columns.  A column is of
no known kind exactly if no value is present.  The kinds of columns are listed in the order of the columns,
and columns of one name are of one kind.
-/
theorem ColumnKind.infer_told_by_values :
    (∀ column rows others, (Table.values rows column).Perm (Table.values others column) →
      infer rows column = infer others column) ∧
    (∀ column rows others, Relation.ReflTransGen (Table.Edit column) rows others ↔
      (Table.values rows column).Perm (Table.values others column)) ∧
    (∀ rows column, infer rows column = unknown ↔
      ∀ row ∈ rows, Table.present? (Json.lookup row column) = none) ∧
    (∀ table : Table, table.columnKinds.map Prod.fst = table.columns ∧
      (∀ name kind, (name, kind) ∈ table.columnKinds ↔
        name ∈ table.columns ∧ kind = infer table.rows name) ∧
      ∀ first ∈ table.columnKinds, ∀ second ∈ table.columnKinds,
        first.1 = second.1 → first.2 = second.2) := by
  constructor
  · intro column rows others perm
    exact ofValues_of_perm perm
  constructor
  · intro column rows others
    exact Table.edits_iff_values_perm
  constructor
  · intro rows column
    rw [infer, ofValues_eq_unknown_iff]
    exact List.filterMap_eq_nil_iff
  · intro table
    constructor
    · rw [Table.columnKinds, List.map_map]
      exact List.map_id _
    constructor
    · intro name kind
      exact Table.mem_columnKinds_iff
    · rintro ⟨name, kind⟩ listed ⟨_, other⟩ also rfl
      exact (Table.mem_columnKinds_iff.1 listed).2.trans (Table.mem_columnKinds_iff.1 also).2.symm

/-- Readings with one that is not a number, and the same readings among other rows in another order. -/
theorem ColumnKind.infer_told_by_values_readings :
    (Table.values [[("reading", .integer 1)], [("reading", .string "n/a")]] "reading").Perm
        (Table.values [[("reading", .null)], [("reading", .string "n/a"), ("place", .null)], [],
          [("reading", .integer 1)]] "reading") ∧
      infer [[("reading", .integer 1)], [("reading", .string "n/a")]] "reading" =
        infer [[("reading", .null)], [("reading", .string "n/a"), ("place", .null)], [],
          [("reading", .integer 1)]] "reading" := by
  have same : (Table.values [[("reading", .integer 1)], [("reading", .string "n/a")]] "reading").Perm
      (Table.values [[("reading", .null)], [("reading", .string "n/a"), ("place", .null)], [],
        [("reading", .integer 1)]] "reading") := List.Perm.swap _ _ _
  exact ⟨same, infer_told_by_values.1 _ _ _ same⟩

end Querent

/-!
# Schemas

The tables of a database as a list of column definitions, and their text as statements that would
create them.  The columns are read one after the other.  A column joins the table under way if it
belongs there; otherwise that table is complete and the column starts the next one.  So neighbouring
columns of one table make up one statement, and the columns of a table that are not neighbours are
spread over several statements.
-/

namespace Querent

/-- A column of a table. -/
structure ColumnDefinition where
  schema : String
  table : String
  name : String
  type : String
  nullable : Bool
  deriving DecidableEq, Repr

/-- The schema and the table of a column. -/
def ColumnDefinition.key (column : ColumnDefinition) : String × String :=
  (column.schema, column.table)

namespace Schema

/-- A table and neighbouring columns of it. -/
structure TableDefinition where
  schema : String
  table : String
  columns : Array ColumnDefinition
  deriving DecidableEq, Repr

namespace TableDefinition

/-- The schema and the name of a table. -/
def key (definition : TableDefinition) : String × String :=
  (definition.schema, definition.table)

/-- The table of a column, with that column only. -/
def ofColumn (column : ColumnDefinition) : TableDefinition :=
  ⟨column.schema, column.table, #[column]⟩

/-- A table with a further column. -/
def push (definition : TableDefinition) (column : ColumnDefinition) : TableDefinition :=
  { definition with columns := definition.columns.push column }

@[simp]
theorem key_ofColumn (column : ColumnDefinition) : (ofColumn column).key = column.key := rfl

@[simp]
theorem columns_ofColumn (column : ColumnDefinition) : (ofColumn column).columns = #[column] := rfl

@[simp]
theorem key_push (definition : TableDefinition) (column : ColumnDefinition) :
    (definition.push column).key = definition.key := rfl

@[simp]
theorem columns_push (definition : TableDefinition) (column : ColumnDefinition) :
    (definition.push column).columns = definition.columns.push column := rfl

end TableDefinition

/-- The tables of the columns read so far: those that are complete, and the one under way. -/
structure Draft where
  complete : Array TableDefinition
  current : Option TableDefinition
  deriving DecidableEq, Repr

namespace Draft

/-- No tables. -/
def empty : Draft :=
  ⟨#[], none⟩

/-- Adds a column, to the table under way if it belongs there. -/
def add (draft : Draft) (column : ColumnDefinition) : Draft :=
  match draft.current with
  | some definition =>
    if definition.key = column.key then { draft with current := some (definition.push column) }
    else ⟨draft.complete.push definition, some (.ofColumn column)⟩
  | none => { draft with current := some (.ofColumn column) }

/-- The tables, of which the one under way is the last. -/
def tables (draft : Draft) : List TableDefinition :=
  draft.complete.toList ++ draft.current.toList

end Draft

/-- The tables of a list of columns, each with neighbouring columns. -/
def tables (columns : List ColumnDefinition) : List TableDefinition :=
  (columns.foldl Draft.add Draft.empty).tables

/-- The schema whose name is left out. -/
def unnamedSchema : String := "main"

/-- The name of a table, with its schema unless that is left out. -/
def tableName (schema table : String) : String :=
  if schema == unnamedSchema then "\"" ++ table ++ "\""
  else "\"" ++ schema ++ "\".\"" ++ table ++ "\""

/-- The definition of a column. -/
def columnText (column : ColumnDefinition) : String :=
  "    \"" ++ column.name ++ "\" " ++ column.type ++ (if column.nullable then "" else " NOT NULL")

/-- The statement that creates a table. -/
def tableText (definition : TableDefinition) : String :=
  "CREATE TABLE " ++ tableName definition.schema definition.table ++ " (\n" ++
    ",\n".intercalate (definition.columns.toList.map columnText) ++ "\n);"

/-- The statements that create the tables of a list of columns. -/
def text (columns : List ColumnDefinition) : String :=
  "\n\n".intercalate ((tables columns).map tableText)

@[simp]
theorem tables_nil : tables [] = [] := rfl

end Schema

end Querent

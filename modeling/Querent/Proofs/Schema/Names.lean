import Mathlib.Data.List.Basic
import Querent.Proofs.Schema.Runs
import Querent.Sql.Lexer

/-!
# Names in statements

The statements show the names of schemas, tables and columns in double quotes.  Where a quoted name is
read, a doubled quote stands for one quote and a single one ends the name.  The quotes in a name are
not doubled when it is written, so a name is read back exactly if no quote is in it; a name with a
quote ends too early or runs into the text behind it, and may even make the text that of other columns.
As long as no name has a quote and every type stands on one line, the text tells the names of all
columns.
-/

namespace Querent

namespace Sql.Lexer

/-! ## Reading quoted names -/

/-- The quote around names. -/
def nameQuote : Char := '"'

/-- A text with every quote doubled. -/
def doubled (text : List Char) : List Char :=
  text.flatMap fun c => if c = nameQuote then [nameQuote, nameQuote] else [c]

@[simp]
theorem doubled_nil : doubled [] = [] := rfl

@[simp]
theorem doubled_quote (text : List Char) :
    doubled (nameQuote :: text) = nameQuote :: nameQuote :: doubled text := rfl

theorem doubled_cons_of_ne {c : Char} (plain : c ≠ nameQuote) (text : List Char) :
    doubled (c :: text) = c :: doubled text := by
  simp [doubled, plain]

theorem doubled_append (text more : List Char) :
    doubled (text ++ more) = doubled text ++ doubled more :=
  List.flatMap_append

theorem doubled_of_notMem {text : List Char} (plain : nameQuote ∉ text) : doubled text = text := by
  induction text with
  | nil => rfl
  | cons c text ih =>
    rw [List.mem_cons, not_or] at plain
    rw [doubled_cons_of_ne (Ne.symm plain.1), ih plain.2]

/-- What is read as a name is written with doubled quotes and ends at a quote. -/
theorem eq_doubled_of_quotedName {text value behind : List Char}
    (read : quotedName nameQuote text = some (value, behind)) :
    text = doubled value ++ nameQuote :: behind := by
  unfold quotedName at read
  fun_induction quotedText false nameQuote text generalizing value behind with
  | case1 => cases read
  | case2 c quoted second after same ih =>
    rcases Option.map_eq_some_iff.1 read with ⟨⟨inner, rest⟩, found, equal⟩
    cases equal
    rw [beq_iff_eq.1 quoted, beq_iff_eq.1 same, doubled_quote, ih found]
    rfl
  | case3 c quoted second after differs =>
    cases read
    rw [beq_iff_eq.1 quoted]
    rfl
  | case4 c quoted =>
    cases read
    rw [beq_iff_eq.1 quoted]
    rfl
  | case5 c plain escaped letter after ih => cases escaped
  | case6 c plain escaped => cases escaped
  | case7 c rest plain unescaped ih =>
    rcases Option.map_eq_some_iff.1 read with ⟨⟨inner, others⟩, found, equal⟩
    cases equal
    have other : c ≠ nameQuote := fun same => plain (beq_iff_eq.2 same)
    rw [doubled_cons_of_ne other, ih found]
    rfl

theorem quotedName_of_notMem {name behind : List Char} (plain : nameQuote ∉ name)
    (stops : behind.head? ≠ some nameQuote) :
    quotedName nameQuote (name ++ nameQuote :: behind) = some (name, behind) := by
  induction name with
  | nil =>
    cases behind with
    | nil => rfl
    | cons c behind =>
      have other : (c == nameQuote) = false := by
        rw [beq_eq_false_iff_ne]
        rintro rfl
        exact stops rfl
      simp [quotedName, quotedText, other]
  | cons c name ih =>
    rw [List.mem_cons, not_or] at plain
    have other : (c == nameQuote) = false := beq_eq_false_iff_ne.2 (Ne.symm plain.1)
    have rest := ih plain.2
    unfold quotedName at rest ⊢
    rw [List.cons_append, quotedText.eq_def]
    simp only [other, Bool.false_eq_true, if_false, Bool.false_and, rest]
    rfl

/-- Quotes behind a text never make up for quotes missing before it. -/
theorem append_quote_ne (name : List Char) {c : Char} (stops : c ≠ nameQuote) (more behind : List Char)
    (missing : Nat) : name ++ nameQuote :: c :: more ≠
      List.replicate (missing + 1) nameQuote ++ (doubled name ++ nameQuote :: behind) := by
  intro same
  induction name generalizing missing with
  | nil =>
    rw [List.nil_append, List.replicate_succ, List.cons_append, List.cons.injEq] at same
    cases missing with
    | zero => exact stops (List.cons.inj same.2).1
    | succ missing => exact stops (List.cons.inj same.2).1
  | cons d name ih =>
    rw [List.cons_append, List.replicate_succ, List.cons_append, List.cons.injEq] at same
    rcases same with ⟨rfl, same⟩
    apply ih (missing + 1)
    rw [same, doubled_quote, List.replicate_succ', List.replicate_succ', List.append_assoc,
      List.append_assoc]
    rfl

/-- A name with a quote that is not doubled is not read back. -/
theorem quotedName_ne_of_mem {name : List Char} (quoted : nameQuote ∈ name) {c : Char}
    (stops : c ≠ nameQuote) (more behind : List Char) :
    quotedName nameQuote (name ++ nameQuote :: c :: more) ≠ some (name, behind) := by
  intro read
  have written := eq_doubled_of_quotedName read
  -- Up to its first quote the name is written as it is read.
  rcases List.eq_append_cons_of_mem quoted with ⟨front, back, rfl, plain⟩
  rw [doubled_append, doubled_of_notMem plain, doubled_quote, List.append_assoc,
    List.append_assoc] at written
  apply append_quote_ne back stops more behind 0
  exact (List.cons.inj (List.append_cancel_left written)).2

/-- Whether a quoted name is read, in the dialect of the database, behind its opening quote. -/
def ReadsName (text name behind : List Char) : Prop :=
  scan .duckDb nameQuote text = found (.word (.quoted nameQuote name)) behind

theorem readsName_iff_quotedName {text name behind : List Char} :
    ReadsName text name behind ↔ quotedName nameQuote text = some (name, behind) := by
  have reads : scan .duckDb nameQuote text = scanQuotedName nameQuote (nameQuote :: text) text := rfl
  rw [ReadsName, reads, scanQuotedName, show closingQuote nameQuote = nameQuote from rfl]
  cases quotedName nameQuote text with
  | none => simp [found]
  | some read =>
    simp [found, Word.quoted, Prod.ext_iff, String.ext_iff]

/-- A name is read back exactly if it has no quote, as long as no quote follows its closing quote. -/
theorem readsName_iff {name : List Char} {c : Char} (stops : c ≠ nameQuote) (more : List Char) :
    (∃ behind, ReadsName (name ++ nameQuote :: c :: more) name behind) ↔ nameQuote ∉ name := by
  constructor
  · rintro ⟨behind, reads⟩ quoted
    rw [readsName_iff_quotedName] at reads
    exact quotedName_ne_of_mem quoted stops more behind reads
  · intro plain
    exact ⟨c :: more, readsName_iff_quotedName.2 (quotedName_of_notMem plain (by simpa using stops))⟩

end Sql.Lexer

namespace Schema

open Sql.Lexer

/-! ## The names in the text -/

/-- A part of the text: a name in quotes, or anything else. -/
inductive Piece where
  | name (value : String)
  | other (value : String)
  deriving DecidableEq, Repr

/-- How a part of the text is written. -/
def Piece.text : Piece → String
  | name value => "\"" ++ value ++ "\""
  | other value => value

/-- How several parts of the text are written. -/
def piecesText (pieces : List Piece) : String :=
  String.join (pieces.map Piece.text)

/-- The parts of the name of a table. -/
def namePieces (schema table : String) : List Piece :=
  if schema == unnamedSchema then [.name table] else [.name schema, .other ".", .name table]

/-- What stands behind the name of a column: its type and whether it may be absent. -/
def typeText (column : ColumnDefinition) : String :=
  column.type ++ (if column.nullable then "" else " NOT NULL")

/-- The parts of the definition of a column. -/
def columnPieces (column : ColumnDefinition) : List Piece :=
  [.other "    ", .name column.name, .other (" " ++ typeText column)]

/-- The parts of the statement that creates a table. -/
def tablePieces (definition : TableDefinition) : List Piece :=
  .other "CREATE TABLE " :: (namePieces definition.schema definition.table ++ .other " (\n" ::
    ([.other ",\n"].intercalate (definition.run.map columnPieces) ++ [.other "\n);"]))

/-- The parts of the statements that create the tables of a list of columns. -/
def pieces (columns : List ColumnDefinition) : List Piece :=
  [.other "\n\n"].intercalate ((tables columns).map tablePieces)

@[simp]
theorem piecesText_nil : piecesText [] = "" := rfl

@[simp]
theorem piecesText_cons (piece : Piece) (rest : List Piece) :
    piecesText (piece :: rest) = piece.text ++ piecesText rest := by
  rw [piecesText, List.map_cons, String.join_cons]
  rfl

@[simp]
theorem piecesText_append (first second : List Piece) :
    piecesText (first ++ second) = piecesText first ++ piecesText second := by
  rw [piecesText, List.map_append, String.join_append]
  rfl

theorem piecesText_intercalate (separator : String) (parts : List (List Piece)) :
    piecesText ([.other separator].intercalate parts) =
      separator.intercalate (parts.map piecesText) := by
  induction parts with
  | nil => rfl
  | cons part parts ih =>
    cases parts with
    | nil => simp
    | cons next parts =>
      have nonempty : (next :: parts).map piecesText ≠ [] := List.cons_ne_nil _ _
      rw [List.intercalate_cons_cons, piecesText_append, piecesText_append, ih,
        List.map_cons (a := part), String.intercalate_cons_of_ne_nil nonempty, piecesText_cons,
        piecesText_nil, String.append_empty]
      rfl

theorem piecesText_namePieces (schema table : String) :
    piecesText (namePieces schema table) = tableName schema table := by
  apply String.toList_injective
  unfold namePieces tableName
  split <;> simp [Piece.text]

theorem piecesText_columnPieces (column : ColumnDefinition) :
    piecesText (columnPieces column) = columnText column := by
  apply String.toList_injective
  simp [columnPieces, columnText, typeText, Piece.text]

theorem tableText_eq (definition : TableDefinition) :
    tableText definition = "CREATE TABLE " ++ tableName definition.schema definition.table ++ " (\n" ++
      ",\n".intercalate (definition.run.map columnText) ++ "\n);" := rfl

theorem piecesText_tablePieces (definition : TableDefinition) :
    piecesText (tablePieces definition) = tableText definition := by
  have columns : (definition.run.map columnPieces).map piecesText = definition.run.map columnText := by
    rw [List.map_map]
    exact List.map_congr_left fun column _ => piecesText_columnPieces column
  rw [tablePieces, piecesText_cons, piecesText_append, piecesText_cons, piecesText_append,
    piecesText_namePieces, piecesText_intercalate, columns]
  simp [tableText_eq, Piece.text, String.append_assoc]

/-- The text is made up of its parts. -/
theorem piecesText_pieces (columns : List ColumnDefinition) :
    piecesText (pieces columns) = text columns := by
  rw [pieces, piecesText_intercalate, List.map_map, text]
  congr 1
  exact List.map_congr_left fun definition _ => piecesText_tablePieces definition

/-! ## What stands behind a name -/

/-- Whether other text stands behind every name, and does not start with a quote. -/
def Separated : List Piece → Prop
  | [] => True
  | .other _ :: rest => Separated rest
  | .name _ :: rest =>
    (∃ c more, (piecesText rest).toList = c :: more ∧ c ≠ nameQuote) ∧ Separated rest

@[simp]
theorem separated_other (value : String) (rest : List Piece) :
    Separated (.other value :: rest) ↔ Separated rest := Iff.rfl

@[simp]
theorem separated_name (value : String) (rest : List Piece) :
    Separated (.name value :: rest) ↔
      (∃ c more, (piecesText rest).toList = c :: more ∧ c ≠ nameQuote) ∧ Separated rest := Iff.rfl

theorem Separated.append {first second : List Piece} (front : Separated first)
    (back : Separated second) : Separated (first ++ second) := by
  induction first with
  | nil => exact back
  | cons piece first ih =>
    cases piece with
    | other value => exact ih front
    | name value =>
      rcases front with ⟨⟨c, more, starts, plain⟩, rest⟩
      rw [List.cons_append, separated_name, piecesText_append, String.toList_append, starts]
      exact ⟨⟨c, _, rfl, plain⟩, ih rest⟩

theorem Separated.of_append {first second : List Piece} (whole : Separated (first ++ second)) :
    Separated second := by
  induction first with
  | nil => exact whole
  | cons piece first ih =>
    cases piece with
    | other value => exact ih whole
    | name value => exact ih whole.2

theorem separated_intercalate (separator : String) {parts : List (List Piece)}
    (separated : ∀ part ∈ parts, Separated part) :
    Separated ([.other separator].intercalate parts) := by
  induction parts with
  | nil => trivial
  | cons part parts ih =>
    rcases List.forall_mem_cons.1 separated with ⟨here, later⟩
    cases parts with
    | nil => simpa using here
    | cons next parts =>
      rw [List.intercalate_cons_cons, List.append_assoc]
      apply here.append
      rw [List.singleton_append, separated_other]
      exact ih later

theorem separated_columnPieces (column : ColumnDefinition) : Separated (columnPieces column) := by
  constructor
  · exact ⟨' ', (typeText column).toList, by simp [Piece.text], by decide⟩
  · trivial

theorem separated_namePieces (schema table : String) {rest : List Piece} (separated : Separated rest)
    (opened : ∃ c more, (piecesText rest).toList = c :: more ∧ c ≠ nameQuote) :
    Separated (namePieces schema table ++ rest) := by
  unfold namePieces
  split
  next => exact ⟨opened, separated⟩
  next =>
    rw [List.cons_append, List.cons_append, separated_name, piecesText_cons, String.toList_append]
    exact ⟨⟨'.', _, rfl, by decide⟩, opened, separated⟩

theorem separated_tablePieces (definition : TableDefinition) :
    Separated (tablePieces definition) := by
  have columns : Separated ([.other ",\n"].intercalate (definition.run.map columnPieces)) := by
    apply separated_intercalate
    intro part member
    rcases List.mem_map.1 member with ⟨column, _, rfl⟩
    exact separated_columnPieces column
  have closed : Separated [.other "\n);"] := trivial
  rw [tablePieces, separated_other]
  apply separated_namePieces
  · exact columns.append closed
  · rw [piecesText_cons, String.toList_append]
    exact ⟨' ', _, rfl, by decide⟩

theorem separated_pieces (columns : List ColumnDefinition) : Separated (pieces columns) := by
  apply separated_intercalate
  intro part member
  rcases List.mem_map.1 member with ⟨definition, _, rfl⟩
  exact separated_tablePieces definition

/-! ## What the text tells -/

/-- Whether the names of a column have no quotes and its type stands on one line. -/
structure Plain (column : ColumnDefinition) : Prop where
  schema : nameQuote ∉ column.schema.toList
  table : nameQuote ∉ column.table.toList
  name : nameQuote ∉ column.name.toList
  type : '\n' ∉ column.type.toList

/-- Texts that end at the first of some character are told apart from what stands behind them. -/
theorem append_cons_inj {stop : Char} {front front' behind behind' : List Char}
    (plain : stop ∉ front) (plain' : stop ∉ front')
    (same : front ++ stop :: behind = front' ++ stop :: behind') : front = front' ∧ behind = behind' := by
  induction front generalizing front' with
  | nil =>
    cases front' with
    | nil => exact ⟨rfl, (List.cons.inj same).2⟩
    | cons c front' =>
      rcases List.cons.inj same with ⟨rfl, _⟩
      exact absurd List.mem_cons_self plain'
  | cons c front ih =>
    cases front' with
    | nil =>
      rcases List.cons.inj same with ⟨rfl, _⟩
      exact absurd List.mem_cons_self plain
    | cons d front' =>
      rcases List.cons.inj same with ⟨rfl, rest⟩
      rw [List.mem_cons, not_or] at plain plain'
      rcases ih plain.2 plain'.2 rest with ⟨rfl, behind⟩
      exact ⟨rfl, behind⟩

/-- A name is told from a text that starts with it in quotes. -/
theorem quoted_inj {name other : String} {behind behind' : List Char}
    (plain : nameQuote ∉ name.toList) (plain' : nameQuote ∉ other.toList)
    (same : name.toList ++ nameQuote :: behind = other.toList ++ nameQuote :: behind') :
    name = other ∧ behind = behind' := by
  rcases append_cons_inj plain plain' same with ⟨names, rest⟩
  exact ⟨String.toList_injective names, rest⟩

theorem toList_tableName (schema table : String) (behind : List Char) :
    (tableName schema table).toList ++ behind =
      if schema = unnamedSchema then nameQuote :: (table.toList ++ nameQuote :: behind)
      else nameQuote :: (schema.toList ++ nameQuote :: '.' :: nameQuote ::
        (table.toList ++ nameQuote :: behind)) := by
  unfold tableName
  by_cases unnamed : schema = unnamedSchema
  · simp [unnamed, nameQuote]
  · simp [unnamed, nameQuote]

/-- The schema and the table are told from a text that starts with the name of the table. -/
theorem tableName_inj {schema table schema' table' : String} {behind behind' : List Char}
    (plain : nameQuote ∉ schema.toList ∧ nameQuote ∉ table.toList)
    (plain' : nameQuote ∉ schema'.toList ∧ nameQuote ∉ table'.toList)
    (same : (tableName schema table).toList ++ ' ' :: behind =
      (tableName schema' table').toList ++ ' ' :: behind') :
    (schema, table) = (schema', table') ∧ behind = behind' := by
  rw [toList_tableName, toList_tableName] at same
  by_cases unnamed : schema = unnamedSchema <;> by_cases unnamed' : schema' = unnamedSchema
  · rw [if_pos unnamed, if_pos unnamed'] at same
    rcases quoted_inj plain.2 plain'.2 (List.cons.inj same).2 with ⟨rfl, rest⟩
    rw [unnamed, unnamed']
    exact ⟨rfl, (List.cons.inj rest).2⟩
  · rw [if_pos unnamed, if_neg unnamed'] at same
    rcases quoted_inj plain.2 plain'.1 (List.cons.inj same).2 with ⟨_, rest⟩
    exact absurd (List.cons.inj rest).1 (by decide)
  · rw [if_neg unnamed, if_pos unnamed'] at same
    rcases quoted_inj plain.1 plain'.2 (List.cons.inj same).2 with ⟨_, rest⟩
    exact absurd (List.cons.inj rest).1 (by decide)
  · rw [if_neg unnamed, if_neg unnamed'] at same
    rcases quoted_inj plain.1 plain'.1 (List.cons.inj same).2 with ⟨rfl, tables⟩
    rcases quoted_inj plain.2 plain'.2 (List.cons.inj (List.cons.inj tables).2).2 with ⟨rfl, rest⟩
    exact ⟨rfl, (List.cons.inj rest).2⟩

/-- The columns of a table, with the end of its statement and the text behind it. -/
def rows : List ColumnDefinition → List Char → List Char
  | [], behind => "\n);".toList ++ behind
  | column :: rest, behind => ",\n".toList ++ (columnText column).toList ++ rows rest behind

theorem toList_intercalate_columns (first : ColumnDefinition) (rest : List ColumnDefinition)
    (behind : List Char) :
    (",\n".intercalate ((first :: rest).map columnText)).toList ++ ("\n);".toList ++ behind) =
      (columnText first).toList ++ rows rest behind := by
  induction rest generalizing first with
  | nil => simp [rows]
  | cons next rest ih =>
    have nonempty : (next :: rest).map columnText ≠ [] := List.cons_ne_nil _ _
    rw [List.map_cons (a := first), String.intercalate_cons_of_ne_nil nonempty, String.toList_append,
      String.toList_append, List.append_assoc, ih, rows]
    simp only [List.append_assoc]

/-- The lines behind the line of a column, given the further columns of its table. -/
def following : List ColumnDefinition → List Char → List Char
  | [], behind => ");".toList ++ behind
  | next :: rest, behind => (columnText next).toList ++ rows rest behind

theorem rows_eq (rest : List ColumnDefinition) (behind : List Char) :
    rows rest behind = (if rest = [] then [] else [',']) ++ '\n' :: following rest behind := by
  cases rest <;> rfl

theorem toList_columnText (column : ColumnDefinition) (behind : List Char) :
    (columnText column).toList ++ behind = "    ".toList ++ nameQuote ::
      (column.name.toList ++ nameQuote :: ' ' :: ((typeText column).toList ++ behind)) := by
  simp [columnText, typeText, nameQuote]

/-- A closing parenthesis does not look like a column. -/
theorem following_nil_ne (behind : List Char) (column : ColumnDefinition) (more : List Char) :
    following [] behind ≠ (columnText column).toList ++ more := by
  intro same
  rw [toList_columnText] at same
  exact absurd (List.cons.inj same).1 (by decide)

/-- The line of a column holds its type, and a comma if there are further columns. -/
theorem newline_notMem_line {column : ColumnDefinition} (plain : Plain column)
    (rest : List ColumnDefinition) :
    '\n' ∉ (typeText column).toList ++ if rest = [] then [] else [','] := by
  unfold typeText
  split <;> split <;> simp [plain.type]

/-- The name of a column and the lines behind it are told from a text that starts with the column. -/
theorem columnText_inj {first other : ColumnDefinition} {rest others : List ColumnDefinition}
    {behind behind' : List Char} (plain : Plain first) (plain' : Plain other)
    (same : (columnText first).toList ++ rows rest behind =
      (columnText other).toList ++ rows others behind') :
    first.name = other.name ∧ following rest behind = following others behind' := by
  rw [toList_columnText, toList_columnText] at same
  rcases quoted_inj plain.name plain'.name (List.cons.inj (List.append_cancel_left same)).2 with
    ⟨names, types⟩
  have lines := (List.cons.inj types).2
  rw [rows_eq, rows_eq, ← List.append_assoc, ← List.append_assoc] at lines
  exact ⟨names,
    (append_cons_inj (newline_notMem_line plain rest) (newline_notMem_line plain' others) lines).2⟩

/-- The names of all columns of a table are told from a text that starts with the columns. -/
theorem rows_inj {first other : ColumnDefinition} {rest others : List ColumnDefinition}
    {behind behind' : List Char}
    (plain : ∀ column ∈ first :: rest, Plain column) (plain' : ∀ column ∈ other :: others, Plain column)
    (same : (columnText first).toList ++ rows rest behind =
      (columnText other).toList ++ rows others behind') :
    (first :: rest).map ColumnDefinition.name = (other :: others).map ColumnDefinition.name ∧
      behind = behind' := by
  induction rest generalizing first other others with
  | nil =>
    rcases columnText_inj (plain first List.mem_cons_self) (plain' other List.mem_cons_self) same with
      ⟨names, lines⟩
    cases others with
    | nil => exact ⟨by rw [List.map_singleton, List.map_singleton, names],
        List.append_cancel_left lines⟩
    | cons next others => exact (following_nil_ne _ _ _ lines).elim
  | cons next rest ih =>
    rcases columnText_inj (plain first List.mem_cons_self) (plain' other List.mem_cons_self) same with
      ⟨names, lines⟩
    cases others with
    | nil => exact (following_nil_ne _ _ _ lines.symm).elim
    | cons another others =>
      rcases ih (List.forall_mem_cons.1 plain).2 (List.forall_mem_cons.1 plain').2 lines with
        ⟨later, behind⟩
      exact ⟨by rw [List.map_cons, names, later]; rfl, behind⟩

/-! ## Tables -/

/-- A table with the names of its columns. -/
def TableDefinition.outline (definition : TableDefinition) : (String × String) × List String :=
  (definition.key, definition.run.map ColumnDefinition.name)

/-- The statements of tables. -/
def tablesText (definitions : List TableDefinition) : List Char :=
  ("\n\n".intercalate (definitions.map tableText)).toList

/-- Whether a table has columns, all of them its own and plain. -/
structure PlainTable (definition : TableDefinition) : Prop where
  inhabited : definition.run ≠ []
  owned : ∀ column ∈ definition.run, column.key = definition.key
  plain : ∀ column ∈ definition.run, Plain column

theorem PlainTable.key {definition : TableDefinition} (plain : PlainTable definition) :
    nameQuote ∉ definition.schema.toList ∧ nameQuote ∉ definition.table.toList := by
  rcases List.exists_mem_of_ne_nil _ plain.inhabited with ⟨column, member⟩
  rcases Prod.mk.inj (plain.owned column member) with ⟨schema, table⟩
  have names := plain.plain column member
  rw [← schema, ← table]
  exact ⟨names.schema, names.table⟩

theorem toList_tableText {definition : TableDefinition} {first : ColumnDefinition}
    {rest : List ColumnDefinition} (order : definition.run = first :: rest) (behind : List Char) :
    (tableText definition).toList ++ behind = "CREATE TABLE ".toList ++
      ((tableName definition.schema definition.table).toList ++ ' ' :: '(' :: '\n' ::
        ((columnText first).toList ++ rows rest behind)) := by
  rw [← toList_intercalate_columns, ← order]
  simp [tableText_eq]

/-- A table and the names of its columns are told from a text that starts with its statement. -/
theorem tableText_inj {definition other : TableDefinition} {behind behind' : List Char}
    (plain : PlainTable definition) (plain' : PlainTable other)
    (same : (tableText definition).toList ++ behind = (tableText other).toList ++ behind') :
    definition.outline = other.outline ∧ behind = behind' := by
  rcases List.exists_cons_of_ne_nil plain.inhabited with ⟨first, rest, order⟩
  rcases List.exists_cons_of_ne_nil plain'.inhabited with ⟨first', rest', order'⟩
  rw [toList_tableText order, toList_tableText order'] at same
  rcases tableName_inj plain.key plain'.key (List.append_cancel_left same) with ⟨key, columns⟩
  have columns := (List.cons.inj (List.cons.inj columns).2).2
  rcases rows_inj (order ▸ plain.plain) (order' ▸ plain'.plain) columns with ⟨names, behind⟩
  constructor
  · rw [TableDefinition.outline, TableDefinition.outline, order, order', names]
    exact congrArg (·, _) key
  · exact behind

theorem tablesText_cons (definition : TableDefinition) (definitions : List TableDefinition) :
    tablesText (definition :: definitions) = (tableText definition).toList ++
      if definitions = [] then [] else "\n\n".toList ++ tablesText definitions := by
  unfold tablesText
  cases definitions with
  | nil => simp
  | cons next definitions =>
    have nonempty : (next :: definitions).map tableText ≠ [] := List.cons_ne_nil _ _
    rw [List.map_cons (a := definition), String.intercalate_cons_of_ne_nil nonempty,
      String.toList_append, String.toList_append, List.append_assoc]
    rfl

theorem tablesText_cons_ne_nil (definition : TableDefinition) (definitions : List TableDefinition) :
    tablesText (definition :: definitions) ≠ [] := by
  intro empty
  rw [tablesText_cons] at empty
  have nothing := (List.append_eq_nil_iff.1 empty).1
  simp [tableText_eq] at nothing

/-- The tables and the names of their columns are told from the text. -/
theorem tablesText_inj {definitions others : List TableDefinition}
    (plain : ∀ definition ∈ definitions, PlainTable definition)
    (plain' : ∀ definition ∈ others, PlainTable definition)
    (same : tablesText definitions = tablesText others) :
    definitions.map TableDefinition.outline = others.map TableDefinition.outline := by
  induction definitions generalizing others with
  | nil =>
    cases others with
    | nil => rfl
    | cons other others => exact absurd same.symm (tablesText_cons_ne_nil other others)
  | cons definition definitions ih =>
    cases others with
    | nil => exact absurd same (tablesText_cons_ne_nil definition definitions)
    | cons other others =>
      rcases List.forall_mem_cons.1 plain with ⟨here, later⟩
      rcases List.forall_mem_cons.1 plain' with ⟨here', later'⟩
      rw [tablesText_cons, tablesText_cons] at same
      rcases tableText_inj here here' same with ⟨outline, rest⟩
      rw [List.map_cons, List.map_cons, outline]
      congr 1
      apply ih later later'
      -- Behind the last statement there is nothing, behind any other a blank line and the next one.
      by_cases last : definitions = [] <;> by_cases last' : others = []
      · rw [last, last']
      · rw [if_pos last, if_neg last'] at rest
        cases rest
      · rw [if_neg last, if_pos last'] at rest
        cases rest
      · rw [if_neg last, if_neg last'] at rest
        exact List.append_cancel_left rest

/-! ## Results -/

/-- The schema, the table and the name of a column. -/
def fullName (column : ColumnDefinition) : (String × String) × String :=
  (column.key, column.name)

theorem map_fullName (columns : List ColumnDefinition) :
    columns.map fullName = ((tables columns).map TableDefinition.outline).flatMap fun outline =>
      outline.2.map fun name => (outline.1, name) := by
  conv => lhs; rw [← (areRuns_tables columns).whole]
  rw [List.map_flatten, List.map_map, List.flatMap_map, List.flatMap]
  congr 1
  apply List.map_congr_left
  intro definition member
  rw [Function.comp_apply, TableDefinition.outline, List.map_map]
  apply List.map_congr_left
  intro column inRun
  rw [fullName, (run_of_mem_tables member).2 column inRun]
  rfl

theorem plainTable_of_mem_tables {columns : List ColumnDefinition}
    (plain : ∀ column ∈ columns, Plain column) {definition : TableDefinition}
    (member : definition ∈ tables columns) : PlainTable definition := by
  rcases run_of_mem_tables member with ⟨inhabited, owned⟩
  constructor
  · exact inhabited
  · exact owned
  · intro column inRun
    apply plain
    rw [← (areRuns_tables columns).whole]
    exact List.mem_flatten.2 ⟨definition.run, List.mem_map_of_mem member, inRun⟩

/-- Plain columns with the same text have the same names. -/
theorem fullNames_of_text_eq {first second : List ColumnDefinition}
    (plain : ∀ column ∈ first, Plain column) (plain' : ∀ column ∈ second, Plain column)
    (same : text first = text second) : first.map fullName = second.map fullName := by
  have outlines := tablesText_inj (fun definition => plainTable_of_mem_tables plain)
    (fun definition => plainTable_of_mem_tables plain') (congrArg String.toList same)
  rw [map_fullName, map_fullName, outlines]

/-- The name that a part of the text shows. -/
def Piece.name? : Piece → Option String
  | name value => some value
  | other _ => none

/-- The names that the statement of a table shows. -/
def TableDefinition.names (definition : TableDefinition) : List String :=
  (if definition.schema = unnamedSchema then [] else [definition.schema]) ++
    definition.table :: definition.run.map ColumnDefinition.name

theorem filterMap_name?_intercalate (separator : String) (parts : List (List Piece)) :
    ([.other separator].intercalate parts).filterMap Piece.name? =
      parts.flatMap fun part => part.filterMap Piece.name? := by
  induction parts with
  | nil => rfl
  | cons part parts ih =>
    cases parts with
    | nil => simp
    | cons next parts =>
      rw [List.intercalate_cons_cons, List.filterMap_append, List.filterMap_append, ih,
        List.flatMap_cons (x := part), List.append_assoc]
      rfl

theorem filterMap_name?_tablePieces (definition : TableDefinition) :
    (tablePieces definition).filterMap Piece.name? = definition.names := by
  have named : (namePieces definition.schema definition.table).filterMap Piece.name? =
      (if definition.schema = unnamedSchema then [] else [definition.schema]) ++
        [definition.table] := by
    unfold namePieces
    by_cases unnamed : definition.schema = unnamedSchema
    · rw [if_pos unnamed, if_pos (beq_iff_eq.2 unnamed)]
      rfl
    · rw [if_neg unnamed, if_neg (mt beq_iff_eq.1 unnamed)]
      rfl
  have columns : ([.other ",\n"].intercalate (definition.run.map columnPieces)).filterMap Piece.name? =
      definition.run.map ColumnDefinition.name := by
    rw [filterMap_name?_intercalate, List.flatMap_map]
    exact List.flatMap_pure_eq_map ..
  rw [tablePieces, List.filterMap_cons_none rfl, List.filterMap_append, List.filterMap_cons_none rfl,
    List.filterMap_append, named, columns, TableDefinition.names, List.append_assoc]
  simp [Piece.name?]

/-- The text shows the names of every table and its columns, in their order. -/
theorem filterMap_name?_pieces (columns : List ColumnDefinition) :
    (pieces columns).filterMap Piece.name? = (tables columns).flatMap TableDefinition.names := by
  rw [pieces, filterMap_name?_intercalate, List.flatMap_map]
  congr 1
  exact funext filterMap_name?_tablePieces

/-- Where a name stands in the text. -/
theorem toList_text_of_pieces {columns : List ColumnDefinition} {before after : List Piece}
    {name : String} (split : pieces columns = before ++ .name name :: after) :
    (text columns).toList = (piecesText before).toList ++
      nameQuote :: (name.toList ++ nameQuote :: (piecesText after).toList) := by
  rw [← piecesText_pieces, split, piecesText_append, piecesText_cons]
  simp [Piece.text, nameQuote]

/-- A name in the text is read back exactly if it has no quote. -/
theorem readsName_iff_of_pieces {columns : List ColumnDefinition} {before after : List Piece}
    {name : String} (split : pieces columns = before ++ .name name :: after) :
    (∃ behind, ReadsName (name.toList ++ nameQuote :: (piecesText after).toList) name.toList behind) ↔
      nameQuote ∉ name.toList := by
  have separated := separated_pieces columns
  rw [split] at separated
  rcases separated.of_append.1 with ⟨c, more, starts, stops⟩
  rw [starts]
  exact readsName_iff stops more

/--
The text shows the names of every table and its columns in quotes.  Each of them is read back exactly
if it has no quote.  The names of all columns are told from the text as long as they have no quotes and
all types stand on one line.
-/
theorem names_readBack_iff (columns : List ColumnDefinition) :
    (pieces columns).filterMap Piece.name? = (tables columns).flatMap TableDefinition.names ∧
    (∀ before name after, pieces columns = before ++ .name name :: after →
      (text columns).toList = (piecesText before).toList ++
          nameQuote :: (name.toList ++ nameQuote :: (piecesText after).toList) ∧
        ((∃ behind,
            ReadsName (name.toList ++ nameQuote :: (piecesText after).toList) name.toList behind) ↔
          nameQuote ∉ name.toList)) ∧
    ((∀ column ∈ columns, Plain column) → ∀ others, (∀ column ∈ others, Plain column) →
      text columns = text others → columns.map fullName = others.map fullName) := by
  constructor
  · exact filterMap_name?_pieces columns
  constructor
  · intro before name after split
    exact ⟨toList_text_of_pieces split, readsName_iff_of_pieces split⟩
  · intro plain others plain' same
    exact fullNames_of_text_eq plain plain' same

/-- A name without quotes is read back, and no other plain columns have the same text. -/
theorem names_readBack_iff_orders :
    (pieces orderColumns = [.other "CREATE TABLE ", .name "orders", .other " (\n", .other "    "] ++
      .name "id" :: (pieces orderColumns).drop 5) ∧
    (∃ behind, ReadsName ("id".toList ++ nameQuote ::
      (piecesText ((pieces orderColumns).drop 5)).toList) "id".toList behind) ∧
    ∀ others, (∀ column ∈ others, Plain column) → text orderColumns = text others →
      orderColumns.map fullName = others.map fullName := by
  have split : pieces orderColumns =
      [.other "CREATE TABLE ", .name "orders", .other " (\n", .other "    "] ++
        .name "id" :: (pieces orderColumns).drop 5 := by
    decide
  have plain : ∀ column ∈ orderColumns, Plain column := by
    intro column member
    rcases List.mem_pair.1 member with rfl | rfl <;> constructor <;> decide
  rcases names_readBack_iff orderColumns with ⟨-, read, told⟩
  constructor
  · exact split
  constructor
  · exact (read _ _ _ split).2.2 (by decide)
  · exact told plain

/-- A column whose name has a quote. -/
def quotedColumn : ColumnDefinition :=
  ⟨"main", "t", "a\"b", "INTEGER", true⟩

/-- A column whose name looks like the definitions of two columns. -/
def forgedColumn : ColumnDefinition :=
  ⟨"main", "t", "a\" INTEGER,\n    \"b", "INTEGER", true⟩

/-- The columns that the forged column looks like. -/
def forgedColumns : List ColumnDefinition :=
  [⟨"main", "t", "a", "INTEGER", true⟩, ⟨"main", "t", "b", "INTEGER", true⟩]

/-- A name with a quote is not read back, and makes columns with other names have the same text. -/
theorem not_forall_names_readBack :
    (¬ ∀ columns before name after, pieces columns = before ++ .name name :: after →
      ∃ behind,
        ReadsName (name.toList ++ nameQuote :: (piecesText after).toList) name.toList behind) ∧
    ¬ ∀ columns others, text columns = text others → columns.map fullName = others.map fullName := by
  constructor
  · intro claimed
    have split : pieces [quotedColumn] =
        [.other "CREATE TABLE ", .name "t", .other " (\n", .other "    "] ++
          .name "a\"b" :: (pieces [quotedColumn]).drop 5 := by
      decide
    have plain := (readsName_iff_of_pieces split).1 (claimed _ _ _ _ split)
    exact absurd plain (by decide)
  · intro claimed
    have same : text [forgedColumn] = text forgedColumns := by decide
    exact absurd (claimed _ _ same) (by decide)

end Schema

end Querent

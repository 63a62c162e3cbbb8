import Querent.Toml.Scalar

/-!
# Reading TOML

A document is a list of lines: each is empty, gives a value to a key, or opens a table or the next
table of a list of tables.  The lines are read first; then the tables are built from them, where a
table that was opened or given a value must not be opened or given one again.
-/

namespace Querent.Toml

/-- A line of a document. -/
inductive Line where
  | pair (key : List String) (value : Toml)
  | header (path : List String)
  | listHeader (path : List String)

/-- A parser of a part of a document. -/
abbrev TomlParser := StateT (List Char) Option

namespace TomlParser

/-- Passes over the blanks of a line. -/
def blanks : TomlParser Unit :=
  modify fun text => text.dropWhile fun c => c == ' ' || c == '\t'

/-- The next character, which stays where it is. -/
def peek : TomlParser (Option Char) := do
  return (← get).head?

/-- The next character, if it is the given one, is read. -/
def mark (c : Char) : TomlParser Bool := do
  match ← get with
  | first :: rest =>
    if first == c then
      set rest
      return true
    else return false
  | [] => return false

/-- Reads a character that must be there. -/
def expect (c : Char) : TomlParser Unit := do
  unless ← mark c do failure

/-- Passes over a comment, which runs to the end of the line. -/
def comment : TomlParser Unit := do
  if ← mark '#' then
    let text ← get
    let body := text.takeWhile fun c => c != '\n' && c != '\r'
    if body.all isPlain then set (text.drop body.length) else failure

/-- Reads the end of a line; the end of the document is one. -/
def lineEnd : TomlParser Unit := do
  blanks
  comment
  match ← get with
  | [] => return
  | '\n' :: rest => set rest
  | '\r' :: '\n' :: rest => set rest
  | _ => failure

/-- Passes over at most so many blanks, comments and ends of lines inside a list. -/
def gaps : Nat → TomlParser Unit
  | 0 => return
  | n + 1 => do
    blanks
    match ← peek with
    | some '#' | some '\n' | some '\r' =>
      lineEnd
      gaps n
    | _ => return

/-- Whether a character may stand in a key without quotes. -/
def isKeyChar (c : Char) : Bool :=
  c.isAlphanum || c == '_' || c == '-'

/-- A part of a key. -/
def keyPart : TomlParser String := do
  blanks
  match ← get with
  | '"' :: rest => quotedPart '"' rest
  | '\'' :: rest => quotedPart '\'' rest
  | rest =>
    let name := rest.takeWhile isKeyChar
    if name.isEmpty then failure
    else
      set (rest.drop name.length)
      return String.ofList name
where
  /-- A part of a key in quotes. -/
  quotedPart (quote : Char) (text : List Char) : TomlParser String := do
    let (name, rest) ← liftM (takeLine quote (text.length + 1) [] text)
    set rest
    return name

/-- At most so many parts of a key with points between them. -/
def keyUpTo : Nat → TomlParser (List String)
  | 0 => failure
  | n + 1 => do
    let first ← keyPart
    blanks
    if ← mark '.' then return first :: (← keyUpTo n) else return [first]

/-- A key. -/
def key : TomlParser (List String) := do
  keyUpTo ((← get).length + 1)

/-- Whether a character ends a value without quotes. -/
def endsBare (c : Char) : Bool :=
  [' ', '\t', '\n', '\r', ',', ']', '\x7d', '#'].contains c

/-- A value without quotes; a blank may stand between a day and a time. -/
def bare : TomlParser Toml := do
  let text ← get
  let first := text.takeWhile (!endsBare ·)
  let rest := text.drop first.length
  let second := match rest with
    | ' ' :: c :: after =>
      if (takeDay first).any (·.2.isEmpty) && Text.isAsciiDigit c then
        ' ' :: (c :: after).takeWhile (!endsBare ·)
      else []
    | _ => []
  set (rest.drop second.length)
  liftM (readBare (first ++ second))

/-- Gives a value to a key of a table that is written on one line; a value is never given twice. -/
def givePath (path : List String) (value : Toml) (fields : List (String × Toml)) :
    Option (List (String × Toml)) :=
  match path with
  | [] => none
  | [name] =>
    if (fields.lookup name).isSome then none else some (fields ++ [(name, value)])
  | name :: rest =>
    match fields.lookup name with
    | none => (givePath rest value []).map fun inner => fields ++ [(name, .table inner)]
    | some (.table inner) => do
      let inner ← givePath rest value inner
      return fields.map fun field => if field.1 == name then (name, .table inner) else field
    | some _ => none

/-- The fields of a table that is written on one line; a field without a point in it is closed. -/
def collect (pairs : List (List String × Toml)) : Option (List (String × Toml)) :=
  pairs.foldlM
    (fun fields (path, value) =>
      if pairs.any fun other => closes other path value then none else givePath path value fields)
    []
where
  /-- Whether another pair gives a whole table to the start of a key. -/
  closes (other : List String × Toml) (path : List String) (_ : Toml) : Bool :=
    match other.2 with
    | .table _ => other.1.length < path.length && other.1.isPrefixOf path
    | _ => false

mutual

/-- A value; values are nested at most so deeply. -/
def value : Nat → TomlParser Toml
  | 0 => failure
  | depth + 1 => do
    match ← get with
    | '"' :: rest => quoted '"' rest
    | '\'' :: rest => quoted '\'' rest
    | '[' :: rest => do
      set rest
      return .list (← items depth rest.length)
    | '\x7b' :: rest => do
      set rest
      blanks
      if ← mark '\x7d' then return .table []
      else
        let pairs ← pairs depth rest.length
        return .table (← liftM (collect pairs))
    | _ => bare
where
  /-- A text in quotes. -/
  quoted (quote : Char) (text : List Char) : TomlParser Toml := do
    let (content, rest) ← liftM (takeQuoted quote text)
    set rest
    return .text content

/-- At most so many items up to the bracket that closes the list. -/
def items : Nat → Nat → TomlParser (List Toml)
  | _, 0 => failure
  | depth, n + 1 => do
    gaps ((← get).length + 1)
    if ← mark ']' then return []
    else
      let first ← value depth
      gaps ((← get).length + 1)
      if ← mark ',' then return first :: (← items depth n)
      else
        expect ']'
        return [first]

/-- At most so many pairs up to the brace that closes the table. -/
def pairs : Nat → Nat → TomlParser (List (List String × Toml))
  | _, 0 => failure
  | depth, n + 1 => do
    let name ← key
    blanks
    expect '='
    blanks
    let first ← value depth
    blanks
    if ← mark ',' then return (name, first) :: (← pairs depth n)
    else
      expect '\x7d'
      return [(name, first)]

end

/-- How deeply values may be nested. -/
def deepest : Nat := 80

/-- A line that is not empty. -/
def line : TomlParser Line := do
  match ← get with
  | '[' :: '[' :: rest => do
    set rest
    let path ← key
    expect ']'
    expect ']'
    return .listHeader path
  | '[' :: rest => do
    set rest
    let path ← key
    expect ']'
    return .header path
  | _ => do
    let name ← key
    blanks
    expect '='
    blanks
    return .pair name (← value deepest)

/-- At most so many lines. -/
def lines : Nat → TomlParser (List Line)
  | 0 => failure
  | n + 1 => do
    blanks
    match ← peek with
    | none => return []
    | some '#' | some '\n' | some '\r' =>
      lineEnd
      lines n
    | some _ => do
      let first ← line
      lineEnd
      return first :: (← lines n)

end TomlParser

/-- How a table came to be. -/
inductive Origin where
  /-- As a part of the path to another table. -/
  | path
  /-- As a part of a key. -/
  | key
  /-- By a line that opens it. -/
  | header
  deriving DecidableEq, Repr

/-- A table, a list of tables or a value while a document is built. -/
inductive Node where
  | value (value : Toml)
  | table (origin : Origin) (fields : List (String × Node))
  | tables (items : List (List (String × Node)))

namespace Node

/-- Changes the field with a name, which may be absent. -/
def change (name : String) (alter : Option Node → Option Node) (fields : List (String × Node)) :
    Option (List (String × Node)) := do
  let node ← alter (fields.lookup name)
  if (fields.lookup name).isSome then
    return fields.map fun field => if field.1 == name then (name, node) else field
  else return fields ++ [(name, node)]

/-- Changes the fields of the table on a path, of a list of tables the last. -/
def within (path : List String)
    (alter : List (String × Node) → Option (List (String × Node))) :
    List (String × Node) → Option (List (String × Node)) :=
  match path with
  | [] => alter
  | name :: rest => change name fun
    | none => (within rest alter []).map (Node.table .path)
    | some (table origin fields) => (within rest alter fields).map (Node.table origin)
    | some (tables items) => do
      let last ← items.getLast?
      return tables (items.dropLast ++ [← within rest alter last])
    | some (value _) => none

/-- Opens the table with a name, which must not have been opened before. -/
def openTable (name : String) : List (String × Node) → Option (List (String × Node)) :=
  change name fun
    | none => some (.table .header [])
    | some (table .path fields) => some (.table .header fields)
    | some _ => none

/-- Opens the next table of the list with a name. -/
def openNext (name : String) : List (String × Node) → Option (List (String × Node)) :=
  change name fun
    | none => some (.tables [[]])
    | some (tables items) => some (.tables (items ++ [[]]))
    | some _ => none

/-- Gives a value to a key, which must not have one. -/
def give (value : Toml) :
    List String → List (String × Node) → Option (List (String × Node))
  | [] => fun _ => none
  | [name] => change name fun
    | none => some (.value value)
    | some _ => none
  | name :: rest => change name fun
    | none => (give value rest []).map (Node.table .key)
    | some (table .header _) => none
    | some (table origin fields) => (give value rest fields).map (Node.table origin)
    | some (tables items) => do
      let last ← items.getLast?
      return tables (items.dropLast ++ [← give value rest last])
    | some (.value _) => none

mutual

/-- The value that a node stands for. -/
def toml : Node → Toml
  | .value plain => plain
  | table _ fields => .table (tomlFields fields)
  | tables items => .list (tomlTables items)

/-- The fields of a table. -/
def tomlFields : List (String × Node) → List (String × Toml)
  | [] => []
  | (name, node) :: rest => (name, node.toml) :: tomlFields rest

/-- The tables of a list. -/
def tomlTables : List (List (String × Node)) → List Toml
  | [] => []
  | fields :: rest => .table (tomlFields fields) :: tomlTables rest

end

end Node

/-- A document while it is built: its fields and the path of the table that was opened last. -/
structure Building where
  fields : List (String × Node)
  current : List String

/-- Adds a line to a document. -/
def Building.add (building : Building) : Line → Option Building
  | .pair key value => do
    let fields ← Node.within building.current (Node.give value key) building.fields
    return { building with fields := fields }
  | .header path => do
    let name ← path.getLast?
    return ⟨← Node.within path.dropLast (Node.openTable name) building.fields, path⟩
  | .listHeader path => do
    let name ← path.getLast?
    return ⟨← Node.within path.dropLast (Node.openNext name) building.fields, path⟩

/-- The fields of the document that a text stands for. -/
def read? (text : String) : Option (List (String × Toml)) := do
  let (lines, _) ← (TomlParser.lines (text.length + 1)).run text.toList
  let building ← lines.foldlM Building.add ⟨[], []⟩
  return Node.tomlFields building.fields

end Querent.Toml

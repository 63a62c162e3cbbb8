import Querent.Decimal.Whole
import Querent.Json.Decoder
import Querent.Settings.Tree
import Querent.Text.Case
import Querent.Text.Search
import Querent.Toml.Reader

/-!
# Layers of settings

Settings come in layers, from a file and from the environment of the program.  A layer is a list of
settings with their keys.  Of the variables of the environment those count whose names begin with a
mark of the program, in letters of either case; two underscores in the rest of a name are a point.
-/

namespace Querent

/-- Settings with their keys. -/
abbrev SettingLayer := List (String × SettingTree)

/-- The forms of files with settings. -/
inductive FileFormat where
  | toml
  | json
  /-- A form that is known by name only. -/
  | other
  deriving DecidableEq, Repr

namespace FileFormat

/-- The forms of files and the endings of their names. -/
def endings : List (String × FileFormat) :=
  [("toml", .toml), ("json", .json), ("yaml", .other), ("yml", .other), ("ini", .other),
    ("ron", .other), ("json5", .other), ("corn", .other)]

end FileFormat

namespace SettingTree

mutual

/-- The tree of a value that is written in a file. -/
def ofToml (source : SettingSource) : Toml → SettingTree
  | .text value => .leaf (.text value) (some source)
  | .integer value => .leaf (.integer value) (some source)
  | .float value => .leaf (.float value) (some source)
  | .boolean value => .leaf (.boolean value) (some source)
  | .moment text => .leaf (.text text) (some source)
  | .list items => .list (ofTomlItems source items) (some source)
  | .table fields => .table (ofTomlFields source fields) (some source)

/-- The trees of the items of a list. -/
def ofTomlItems (source : SettingSource) : List Toml → List SettingTree
  | [] => []
  | item :: rest => ofToml source item :: ofTomlItems source rest

/-- The trees of the fields of a table. -/
def ofTomlFields (source : SettingSource) : List (String × Toml) → List (String × SettingTree)
  | [] => []
  | (name, value) :: rest => (name, ofToml source value) :: ofTomlFields source rest

end

/-- A whole number, or the nearest floating-point number if it does not fit into a signed word. -/
def ofWhole (value : Int) : SettingValue :=
  match Toml.inWord value with
  | some value => .integer value
  | none => .float (Decimal.ofQuotient (value < 0) value.natAbs 1)

mutual

/-- The tree of a document. -/
def ofJson (source : SettingSource) : Json → SettingTree
  | .null => .leaf .nothing (some source)
  | .bool value => .leaf (.boolean value) (some source)
  | .integer value => .leaf (ofWhole value) (some source)
  | .float value => .leaf (.float value) (some source)
  | .string value => .leaf (.text value) (some source)
  | .array items => .list (ofJsonItems source items) (some source)
  | .object fields => .table (ofJsonFields source fields) (some source)

/-- The trees of the items of a list. -/
def ofJsonItems (source : SettingSource) : List Json → List SettingTree
  | [] => []
  | item :: rest => ofJson source item :: ofJsonItems source rest

/-- The trees of the fields of a record. -/
def ofJsonFields (source : SettingSource) : List (String × Json) → List (String × SettingTree)
  | [] => []
  | (name, value) :: rest => (name, ofJson source value) :: ofJsonFields source rest

end

end SettingTree

namespace SettingLayer

/-- The layer in the text of a file. -/
def ofText (format : FileFormat) (source : SettingSource) (text : String) :
    Option SettingLayer :=
  match format with
  | .toml => (Toml.read? text).map (SettingTree.ofTomlFields source)
  | .json =>
    match Json.parse text with
    | .ok (.object fields) => some (SettingTree.ofJsonFields source fields)
    | _ => none
  | .other => none

/-- What the names of variables with settings begin with, in small letters. -/
def variableMark : List Char := "nl_analyst__".toList

/-- A name with each pair of underscores replaced by a point, from the left to the right. -/
def pointed : List Char → List Char
  | '_' :: '_' :: rest => '.' :: pointed rest
  | c :: rest => c :: pointed rest
  | [] => []

/-- The key of the setting in a variable, if it holds one. -/
def keyOfVariable (name : String) : Option String :=
  let lower := Text.lower name.toList
  if Text.startsWith variableMark lower then
    some (String.ofList (pointed (lower.drop variableMark.length)))
  else none

/-- The value of a variable: a truth value, a number or a text, whichever it is first. -/
def valueOfVariable (text : String) : SettingValue :=
  let lower := Text.lower text.toList
  if lower == "true".toList then .boolean true
  else if lower == "false".toList then .boolean false
  else
    match Decimal.readSigned text, Decimal.read? text with
    | .ok value, _ => .integer value
    | .error _, some value => .float value
    | .error _, none => .text text

/-- The layer in the variables of the environment, in the order of their names. -/
def ofVariables (environment : List (String × String)) : SettingLayer :=
  (environment.mergeSort fun a b => a.1 ≤ b.1).filterMap fun (name, text) =>
    (keyOfVariable name).map fun key =>
      (key, .leaf (valueOfVariable text) (some .environment))

end SettingLayer

end Querent

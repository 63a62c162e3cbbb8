import Querent.Settings.Basic
import Querent.Settings.Layer

/-!
# From trees to settings

The settings that a tree stands for.  Values are turned into one another where that makes sense: a
text with a number is a number, a number is a text, and so on.  A part of the tree that is missing
leaves the setting that holds unless another is given; parts that no setting has are passed over.
-/

namespace Querent

/-- Why there are no settings. -/
inductive SettingsError where
  /-- The file with settings is not there. -/
  | missingFile (path : String)
  /-- The form of the file with settings is not known. -/
  | unknownFormat (path : String)
  /-- The file with settings cannot be read. -/
  | unreadableFile (path : String)
  | wrongType (found expected key : String) (source : Option SettingSource)
  /-- Something else is where a group of settings should be. -/
  | noGroup (found group key : String)
  | noSuchDialect (name key : String)
  /-- Something that is not a name is where a dialect should be. -/
  | noDialect (key : String)
  /-- No query would ever be asked for. -/
  | noAttempts
  deriving DecidableEq, Repr

/-- The wording of an error; that of a file that cannot be read is left to whoever reads it. -/
def SettingsError.message : SettingsError → String
  | missingFile path => "configuration file \"" ++ path ++ "\" not found"
  | unknownFormat path => "configuration file \"" ++ path ++ "\" is not of a supported file format"
  | unreadableFile path => "configuration file \"" ++ path ++ "\" cannot be read"
  | wrongType found expected key source =>
    "invalid type: " ++ found ++ ", expected " ++ expected ++ " for key \x60" ++ key ++ "\x60" ++
      match source with
      | some source => " in " ++ source.text
      | none => ""
  | noGroup found group key =>
    "invalid type: " ++ found ++ ", expected struct " ++ group ++ " for key \x60" ++ key ++ "\x60"
  | noSuchDialect name key =>
    "enum SqlDialect does not have variant constructor " ++ name ++ " for key \x60" ++ key ++ "\x60"
  | noDialect key =>
    "value of enum SqlDialect should be represented by either string or table " ++
      "with exactly one key for key \x60" ++ key ++ "\x60"
  | noAttempts => "llm.max_attempts must be at least 1"

namespace SettingTree

/-- A part of a tree and the key under which it is found. -/
structure Part where
  key : String
  tree : SettingTree

/-- The source of a part. -/
def source : SettingTree → Option SettingSource
  | leaf _ source | list _ source | table _ source => source

/-- A text as it is shown in an error. -/
def shownText (value : String) : String :=
  Json.found (.string value)

/-- A truth value as it is shown in an error. -/
def shownBoolean (value : Bool) : String :=
  Json.found (.bool value)

/-- A part that is neither a number nor a text, as it is shown in an error. -/
def shownShape : SettingTree → String
  | leaf .nothing _ => "unit value"
  | leaf (.boolean value) _ => shownBoolean value
  | leaf (.integer value) _ => "integer \x60" ++ toString value ++ "\x60"
  | leaf (.float value) _ => "floating point \x60" ++ Decimal.positionalText value ++ "\x60"
  | leaf (.text value) _ => shownText value
  | list _ _ => "sequence"
  | table _ _ => "map"

namespace Part

/-- The error for a part of the wrong type. -/
def wrongType {α : Type} (part : Part) (found expected : String) : Except SettingsError α :=
  .error (.wrongType found expected part.key part.tree.source)

/-- The words for the truth value that is meant by a text, in small letters. -/
def isYes (text : String) : Bool :=
  ["true", "on", "yes"].contains (String.ofList (Text.lower text.toList))

/-- The words for the other truth value, in small letters. -/
def isNo (text : String) : Bool :=
  ["false", "off", "no"].contains (String.ofList (Text.lower text.toList))

/-- The truth value in a part. -/
def boolean (part : Part) : Except SettingsError Bool :=
  match part.tree with
  | .leaf (.boolean value) _ => .ok value
  | .leaf (.integer value) _ => .ok (value != 0)
  | .leaf (.float value) _ => .ok (value != 0)
  | .leaf (.text value) _ =>
    if isYes value || value == "1" then .ok true
    else if isNo value || value == "0" then .ok false
    else part.wrongType (shownText (String.ofList (Text.lower value.toList))) "a boolean"
  | other => part.wrongType (shownShape other) "a boolean"

/-- The whole number in a part. -/
def natural (part : Part) : Except SettingsError Nat :=
  match part.tree with
  | .leaf (.boolean value) _ => .ok value.toNat
  | .leaf (.integer value) _ =>
    if 0 ≤ value then .ok value.toNat
    else
      part.wrongType ("64-bit integer \x60" ++ toString value ++ "\x60")
        "an unsigned 64 bit or less integer"
  | .leaf (.float value) _ => .ok value.round.toUInt64.toNat
  | .leaf (.text value) _ =>
    if isYes value then .ok 1
    else if isNo value then .ok 0
    else
      match Decimal.readNatural value with
      | .ok n => .ok n
      | .error _ => part.wrongType (shownText value) "an integer"
  | other => part.wrongType (shownShape other) "an integer"

/-- The number of a port in a part. -/
def port (part : Part) : Except SettingsError Nat := do
  let n ← part.natural
  if n < Nat.pow 2 16 then return n
  else
    throw (.wrongType ("64-bit unsigned integer \x60" ++ toString n ++ "\x60")
      "an unsigned 16 bit integer" part.key none)

/-- The text in a part. -/
def text (part : Part) : Except SettingsError String :=
  match part.tree with
  | .leaf (.text value) _ => .ok value
  | .leaf (.boolean value) _ => .ok (if value then "true" else "false")
  | .leaf (.integer value) _ => .ok (toString value)
  | .leaf (.float value) _ => .ok (Decimal.plainText value)
  | other => part.wrongType (shownShape other) "a string"

/-- The text in a part that may be absent. -/
def text? (part : Part) : Except SettingsError (Option String) :=
  match part.tree with
  | .leaf .nothing _ => .ok none
  | _ => some <$> part.text

/-- The dialect with a name, which is written as it is canonical. -/
def dialectNamed (part : Part) (name : String) : Except SettingsError Sql.Dialect :=
  match Sql.Dialect.all.find? fun dialect => dialect.name == name with
  | some dialect => .ok dialect
  | none => .error (.noSuchDialect name part.key)

/-- The dialect in a part: a name, or a table with the name as its only key. -/
def dialect (part : Part) : Except SettingsError Sql.Dialect :=
  match part.tree with
  | .leaf (.text name) _ => part.dialectNamed name
  | .table [(name, _)] _ => part.dialectNamed name
  | _ => .error (.noDialect part.key)

end Part

/-- A group of settings: a table with their names, or a list of them in a fixed order. -/
structure Group where
  key : String
  tree : SettingTree

namespace Group

/-- The group of a name in a tree, empty if the tree has none. -/
def named (group key : String) (tree : SettingTree) : Except SettingsError Group :=
  match tree.field? key with
  | none => .ok ⟨key, empty⟩
  | some (leaf value source) => .error (.noGroup (leaf value source).shownShape group key)
  | some part => .ok ⟨key, part⟩

/-- The part of a group with a name, or at a place if the group is a list. -/
def part? (group : Group) (place : Nat) (name : String) : Option Part :=
  match group.tree with
  | list items _ =>
    items[place]?.map fun item => ⟨group.key ++ "[" ++ toString place ++ "]", item⟩
  | tree => (tree.field? name).map fun part => ⟨group.key ++ "." ++ name, part⟩

/-- The setting in a part of a group, or the one that holds unless another is given. -/
def get {α : Type} (group : Group) (place : Nat) (name : String)
    (read : Part → Except SettingsError α) (otherwise : α) : Except SettingsError α :=
  match group.part? place name with
  | some part => read part
  | none => .ok otherwise

end Group

end SettingTree

open SettingTree

/-- The settings for the database in a group. -/
def DatabaseSettings.ofGroup (group : Group) : Except SettingsError DatabaseSettings := do
  let default := Settings.default.database
  let connection ← group.get 0 "connection_string" Part.text default.connection
  let poolSize ← group.get 1 "pool_size" Part.natural default.poolSize
  let dialect ← group.get 2 "dialect" Part.dialect default.dialect
  let readOnly ← group.get 3 "read_only" Part.boolean default.readOnly
  return ⟨connection, poolSize, dialect, readOnly⟩

/-- The address of the service in a group. -/
def WebSettings.ofGroup (group : Group) : Except SettingsError WebSettings := do
  let default := Settings.default.web
  let host ← group.get 0 "host" Part.text default.host
  let port ← group.get 1 "port" Part.port default.port
  return ⟨host, port⟩

/-- The choice of the assistant in a group. -/
def AssistantSettings.ofGroup (group : Group) : Except SettingsError AssistantSettings := do
  let default := Settings.default.assistant
  let backend ← group.get 0 "backend" Part.text default.backend
  let model ← group.get 1 "model" Part.text default.model
  let apiKey ← group.get 2 "api_key" Part.text? default.apiKey
  let apiUrl ← group.get 3 "api_url" Part.text? default.apiUrl
  let maxAttempts ← group.get 4 "max_attempts" Part.natural default.maxAttempts
  return ⟨backend, model, apiKey, apiUrl, maxAttempts⟩

/-- The settings in a tree. -/
def Settings.ofTree (tree : SettingTree) : Except SettingsError Settings := do
  let database ← DatabaseSettings.ofGroup (← Group.named "DatabaseConfig" "database" tree)
  let web ← WebSettings.ofGroup (← Group.named "WebConfig" "web" tree)
  let assistant ← AssistantSettings.ofGroup (← Group.named "LlmConfig" "llm" tree)
  let history ← Group.named "HistoryConfig" "history" tree
  let historyCapacity ←
    history.get 0 "capacity" Part.natural Settings.default.historyCapacity
  return ⟨database, web, assistant, historyCapacity⟩

end Querent

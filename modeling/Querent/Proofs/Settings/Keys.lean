import Querent.Proofs.Settings.Layering
import Querent.Settings.Load

/-!
# Keys of settings

Each setting has a key: a group and a name in it.  The settings that a tree stands for are found key
by key, each read from its own part of the tree, and a part that shows what another one shows is not
read differently.
-/

namespace Querent

open SettingTree

theorem SettingsError.bind_eq_ok {α β : Type} {first : Except SettingsError α}
    {next : α → Except SettingsError β} {result : β} (done : (first >>= next) = .ok result) :
    ∃ value, first = .ok value ∧ next value = .ok result := by
  cases first with
  | error error => cases done
  | ok value => exact ⟨value, rfl, done⟩

/-- A setting of the program. -/
inductive SettingKey where
  | connection
  | poolSize
  | dialect
  | readOnly
  | host
  | port
  | backend
  | model
  | apiKey
  | apiUrl
  | maxAttempts
  | capacity
  deriving DecidableEq, Repr

namespace SettingKey

/-- What a setting holds. -/
abbrev Value : SettingKey → Type
  | connection | host | backend | model => String
  | poolSize | port | maxAttempts | capacity => Nat
  | dialect => Sql.Dialect
  | readOnly => Bool
  | apiKey | apiUrl => Option String

/-- The group of a setting. -/
def group : SettingKey → String
  | connection | poolSize | dialect | readOnly => "database"
  | host | port => "web"
  | backend | model | apiKey | apiUrl | maxAttempts => "llm"
  | capacity => "history"

/-- The name of a setting in its group. -/
def name : SettingKey → String
  | connection => "connection_string"
  | poolSize => "pool_size"
  | dialect => "dialect"
  | readOnly => "read_only"
  | host => "host"
  | port => "port"
  | backend => "backend"
  | model => "model"
  | apiKey => "api_key"
  | apiUrl => "api_url"
  | maxAttempts => "max_attempts"
  | capacity => "capacity"

/-- The place of a setting in its group, if the group is a list. -/
def place : SettingKey → Nat
  | connection | host | backend | capacity => 0
  | poolSize | port | model => 1
  | dialect | apiKey => 2
  | readOnly | apiUrl => 3
  | maxAttempts => 4

/-- The setting in a part of a tree. -/
def read : (key : SettingKey) → Part → Except SettingsError key.Value
  | connection | host | backend | model => Part.text
  | poolSize | maxAttempts | capacity => Part.natural
  | port => Part.port
  | dialect => Part.dialect
  | readOnly => Part.boolean
  | apiKey | apiUrl => Part.text?

/-- A setting among all settings. -/
def get : (key : SettingKey) → Settings → key.Value
  | connection, settings => settings.database.connection
  | poolSize, settings => settings.database.poolSize
  | dialect, settings => settings.database.dialect
  | readOnly, settings => settings.database.readOnly
  | host, settings => settings.web.host
  | port, settings => settings.web.port
  | backend, settings => settings.assistant.backend
  | model, settings => settings.assistant.model
  | apiKey, settings => settings.assistant.apiKey
  | apiUrl, settings => settings.assistant.apiUrl
  | maxAttempts, settings => settings.assistant.maxAttempts
  | capacity, settings => settings.historyCapacity

/-- What the arguments of the program say about a setting. -/
def given : (key : SettingKey) → Arguments → Option key.Value
  | connection, arguments => arguments.database
  | dialect, arguments => arguments.dialect
  | host, arguments => arguments.host
  | port, arguments => arguments.port
  | poolSize, _ | readOnly, _ | backend, _ | model, _ | apiKey, _ | apiUrl, _ | maxAttempts, _
  | capacity, _ => none

/-- The part of a tree in which a setting stands. -/
def part? (key : SettingKey) (tree : SettingTree) : Option Part :=
  (tree.field? key.group).bind fun part => Group.part? ⟨key.group, part⟩ key.place key.name

/-- The setting in a tree, or the one that holds unless another is given. -/
def readIn (key : SettingKey) (tree : SettingTree) : Except SettingsError key.Value :=
  match key.part? tree with
  | some part => key.read part
  | none => .ok (key.get Settings.default)

/-- A setting with its group, as keys are written in layers. -/
def path (key : SettingKey) : String :=
  key.group ++ "." ++ key.name

theorem pathOf_path (key : SettingKey) : pathOf key.path = [.field key.group, .field key.name] := by
  cases key <;> decide

/-- A setting has its group and its name for itself. -/
theorem ext {key other : SettingKey} (groups : key.group = other.group)
    (names : key.name = other.name) : key = other := by
  cases key <;> cases other <;> revert groups names <;> decide

/-! ## All settings -/

/-- Settings with the same values are the same. -/
theorem settings_eq {settings other : Settings}
    (same : ∀ key : SettingKey, key.get settings = key.get other) : settings = other := by
  obtain ⟨⟨_, _, _, _⟩, ⟨_, _⟩, ⟨_, _, _, _, _⟩, _⟩ := settings
  obtain ⟨⟨_, _, _, _⟩, ⟨_, _⟩, ⟨_, _, _, _, _⟩, _⟩ := other
  obtain rfl := same connection
  obtain rfl := same poolSize
  obtain rfl := same dialect
  obtain rfl := same readOnly
  obtain rfl := same host
  obtain rfl := same port
  obtain rfl := same backend
  obtain rfl := same model
  obtain rfl := same apiKey
  obtain rfl := same apiUrl
  obtain rfl := same maxAttempts
  obtain rfl := same capacity
  rfl

/-- The arguments come first, and what they do not say stays as it is. -/
theorem get_overridden (key : SettingKey) (settings : Settings) (arguments : Arguments) :
    key.get (settings.overridden arguments) = (key.given arguments).getD (key.get settings) := by
  cases key <;> rfl

/-! ## Settings in a tree -/

/-- A setting of a group is found where the tree has it. -/
theorem get_of_named {key : SettingKey} {kind : String} {tree : SettingTree} {group : Group}
    (named : Group.named kind key.group tree = .ok group) :
    group.get key.place key.name key.read (key.get Settings.default) = key.readIn tree := by
  have found : group.part? key.place key.name = key.part? tree := by
    unfold Group.named at named
    unfold part?
    cases field : tree.field? key.group with
    | none =>
      rw [field] at named
      cases named
      rfl
    | some part =>
      rw [field] at named
      cases part with
      | leaf value source => cases named
      | list items source => cases named; rfl
      | table fields source => cases named; rfl
  rw [Group.get, found]
  cases shown : key.part? tree with
  | none => simp only [readIn, shown]
  | some part => simp only [readIn, shown]

/-- In a group that is no list a setting is found by its name. -/
theorem part?_eq {key : SettingKey} {tree : SettingTree}
    (noList : (tree.field? key.group).any isList = false) :
    key.part? tree =
      ((tree.field? key.group).bind (·.field? key.name)).map fun part => ⟨key.path, part⟩ := by
  unfold part?
  cases field : tree.field? key.group with
  | none => rfl
  | some part =>
    rw [field] at noList
    cases part with
    | leaf value source => rfl
    | list items source => cases noList
    | table fields source => rfl

/-- All settings are what a tree says about them, each on its own. -/
theorem readIn_of_ofTree {tree : SettingTree} {settings : Settings}
    (read : Settings.ofTree tree = .ok settings) (key : SettingKey) :
    key.readIn tree = .ok (key.get settings) := by
  obtain ⟨databaseGroup, databaseNamed, read⟩ := SettingsError.bind_eq_ok read
  obtain ⟨database, databaseRead, read⟩ := SettingsError.bind_eq_ok read
  obtain ⟨webGroup, webNamed, read⟩ := SettingsError.bind_eq_ok read
  obtain ⟨web, webRead, read⟩ := SettingsError.bind_eq_ok read
  obtain ⟨assistantGroup, assistantNamed, read⟩ := SettingsError.bind_eq_ok read
  obtain ⟨assistant, assistantRead, read⟩ := SettingsError.bind_eq_ok read
  obtain ⟨historyGroup, historyNamed, read⟩ := SettingsError.bind_eq_ok read
  obtain ⟨capacity, capacityRead, ⟨⟩⟩ := SettingsError.bind_eq_ok read
  obtain ⟨_, connectionRead, databaseRead⟩ := SettingsError.bind_eq_ok databaseRead
  obtain ⟨_, poolSizeRead, databaseRead⟩ := SettingsError.bind_eq_ok databaseRead
  obtain ⟨_, dialectRead, databaseRead⟩ := SettingsError.bind_eq_ok databaseRead
  obtain ⟨_, readOnlyRead, ⟨⟩⟩ := SettingsError.bind_eq_ok databaseRead
  obtain ⟨_, hostRead, webRead⟩ := SettingsError.bind_eq_ok webRead
  obtain ⟨_, portRead, ⟨⟩⟩ := SettingsError.bind_eq_ok webRead
  obtain ⟨_, backendRead, assistantRead⟩ := SettingsError.bind_eq_ok assistantRead
  obtain ⟨_, modelRead, assistantRead⟩ := SettingsError.bind_eq_ok assistantRead
  obtain ⟨_, apiKeyRead, assistantRead⟩ := SettingsError.bind_eq_ok assistantRead
  obtain ⟨_, apiUrlRead, assistantRead⟩ := SettingsError.bind_eq_ok assistantRead
  obtain ⟨_, maxAttemptsRead, ⟨⟩⟩ := SettingsError.bind_eq_ok assistantRead
  cases key with
  | connection => exact (get_of_named databaseNamed).symm.trans connectionRead
  | poolSize => exact (get_of_named databaseNamed).symm.trans poolSizeRead
  | dialect => exact (get_of_named databaseNamed).symm.trans dialectRead
  | readOnly => exact (get_of_named databaseNamed).symm.trans readOnlyRead
  | host => exact (get_of_named webNamed).symm.trans hostRead
  | port => exact (get_of_named webNamed).symm.trans portRead
  | backend => exact (get_of_named assistantNamed).symm.trans backendRead
  | model => exact (get_of_named assistantNamed).symm.trans modelRead
  | apiKey => exact (get_of_named assistantNamed).symm.trans apiKeyRead
  | apiUrl => exact (get_of_named assistantNamed).symm.trans apiUrlRead
  | maxAttempts => exact (get_of_named assistantNamed).symm.trans maxAttemptsRead
  | capacity => exact (get_of_named historyNamed).symm.trans capacityRead

/-! ## Parts that show the same -/

/-- No setting is read from a list. -/
theorem not_read_list (key : SettingKey) (path : String) (items : List SettingTree)
    (source : Option SettingSource) (value : key.Value) :
    key.read ⟨path, .list items source⟩ ≠ .ok value := by
  cases key <;> exact nofun

/-- Nothing but a dialect is read from a table. -/
theorem eq_dialect_of_read_table {key : SettingKey} {path : String}
    {fields : List (String × SettingTree)} {source : Option SettingSource} {value : key.Value}
    (read : key.read ⟨path, .table fields source⟩ = .ok value) : key = dialect := by
  cases key <;> first | rfl | exact nomatch read

/-- A dialect that is read from a table is the only name in it. -/
theorem exists_of_dialect_table {path : String} {fields : List (String × SettingTree)}
    {source : Option SettingSource} {value : Sql.Dialect}
    (read : Part.dialect ⟨path, .table fields source⟩ = .ok value) :
    ∃ name part, fields = [(name, part)] ∧
      Part.dialectNamed ⟨path, .table fields source⟩ name = .ok value := by
  match fields, read with
  | [(name, part)], read => exact ⟨name, part, rfl, read⟩

/-- A setting that is read from a part is read from what comes from above alone. -/
theorem read_of_covers {key : SettingKey} {path : String} {merged upper : SettingTree}
    (covers : Covers merged upper) {value : key.Value}
    (read : key.read ⟨path, merged⟩ = .ok value) : key.read ⟨path, upper⟩ = .ok value := by
  cases covers with
  | leaf => exact read
  | list items others source other => exact absurd read (not_read_list key path items source value)
  | table fields others source other some once known =>
    obtain rfl := eq_dialect_of_read_table read
    obtain ⟨name, part, rfl, named⟩ := exists_of_dialect_table read
    have only : ∀ found ∈ names (.table others other), found = name :=
      fun found member => List.mem_singleton.1 (known member)
    match others, some, once, only with
    | [(first, upper)], _, _, only =>
      obtain rfl : first = name := only first List.mem_cons_self
      exact named
    | (first, upper) :: (second, next) :: rest, _, once, only =>
      have same : first = second :=
        (only first List.mem_cons_self).trans
          (only second (List.mem_cons_of_mem _ List.mem_cons_self)).symm
      exact absurd (same ▸ List.mem_cons_self) (List.nodup_cons.1 once).1

end SettingKey

end Querent

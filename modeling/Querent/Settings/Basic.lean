import Querent.Assistant.Backend
import Querent.Settings.Arguments

/-!
# Settings

What can be set for the program: the database and how queries for it are written, the address of the
service, the assistant that writes queries, and the size of the history.
-/

namespace Querent

/-- The settings for the database. -/
structure DatabaseSettings where
  connection : String
  /-- How many connections are held. -/
  poolSize : Nat
  dialect : Sql.Dialect
  readOnly : Bool
  deriving DecidableEq, Repr

/-- The address of the service. -/
structure WebSettings where
  host : String
  port : Nat
  deriving DecidableEq, Repr

/-- The settings of the program. -/
structure Settings where
  database : DatabaseSettings
  web : WebSettings
  assistant : AssistantSettings
  historyCapacity : Nat
  deriving DecidableEq, Repr

namespace Settings

/-- The settings that hold unless others are given. -/
def default : Settings where
  database := ⟨"nl-analyst.db", 5, .duckDb, false⟩
  web := ⟨"127.0.0.1", 3000⟩
  assistant := ⟨"ollama", "sqlcoder", none, none, 2⟩
  historyCapacity := 50

/-- Settings in which the arguments of the program come first. -/
def overridden (settings : Settings) (arguments : Arguments) : Settings :=
  { settings with
    database :=
      { settings.database with
        connection := arguments.database.getD settings.database.connection
        dialect := arguments.dialect.getD settings.database.dialect }
    web := ⟨arguments.host.getD settings.web.host, arguments.port.getD settings.web.port⟩ }

/-- Without arguments the settings stay as they are. -/
@[simp]
theorem overridden_empty (settings : Settings) : settings.overridden Arguments.empty = settings :=
  rfl

/-- Arguments do not change the assistant. -/
@[simp]
theorem assistant_overridden (settings : Settings) (arguments : Arguments) :
    (settings.overridden arguments).assistant = settings.assistant := rfl

end Settings

end Querent

import Querent.Log.Filter
import Querent.Settings.Load

/-!
# Startup

What the program does before it opens its database: it reads its arguments and its settings, reports
what it is about to do, and ends early if something is wrong.
-/

namespace Querent

/-- How the startup ends. -/
inductive StartupEnd where
  /-- The arguments cannot be used, or ask for something else than to start. -/
  | arguments (error : ArgumentError)
  | settings (error : SettingsError)
  /-- There are to be no connections at all. -/
  | noConnections
  /-- The database can be opened. -/
  | ready (settings : Settings)

/-- A startup: how it ends, what it reports and how reports are written. -/
structure Startup where
  ending : StartupEnd
  format : Log.Format
  filter : Log.Filter
  events : List Log.Event

namespace Startup

/-- The source of what is reported. -/
def source : String := "nl_analyst"

/-- The variable that holds the filter for what is reported. -/
def filterVariable : String := "RUST_LOG"

/-- The number of connections that can be held, in a word of 32 binary digits. -/
def connections (settings : Settings) : Nat :=
  settings.database.poolSize % Nat.pow 2 32

/-- What is reported before the database is opened. -/
def announcement (settings : Settings) : String :=
  "Initializing DuckDB connection pool for " ++ settings.database.connection ++
    " (read-only: " ++ (if settings.database.readOnly then "true" else "false") ++ ")"

/-- The settings of the program, or how the startup ends without them. -/
def prepare (files : Files) (environment : List (String × String)) (arguments : Arguments) :
    Log.Logged StartupEnd := do
  match Settings.load files environment arguments with
  | .error error =>
    Log.note .error source ("Failed to load configuration: " ++ error.message)
    return .settings error
  | .ok settings =>
    Log.note .info source (announcement settings)
    return if connections settings == 0 then .noConnections else .ready settings

/-- The startup of the program with the arguments after its name. -/
def run (words : List String) (files : Files) (environment : List (String × String)) : Startup :=
  let filter := Log.Filter.ofSetting (environment.lookup filterVariable)
  match Arguments.read words with
  | .error error => ⟨.arguments error, .text, filter, []⟩
  | .ok arguments =>
    let (ending, events) := (prepare files environment arguments).result
    ⟨ending, arguments.logFormatOrText, filter, events⟩

/-- The entries that are written. -/
def entries (startup : Startup) : List Json :=
  startup.filter.entries startup.format startup.events

end Startup

namespace StartupEnd

/-- The code with which the program ends, if it ends here. -/
def exitCode? : StartupEnd → Option Nat
  | arguments (.wish _) => some 0
  | arguments _ => some 2
  | settings _ => some 1
  | noConnections => some 101
  | ready _ => none

/-- What is written to whoever started the program. -/
def output? : StartupEnd → Option String
  | arguments (.wish flag) => some (ArgumentError.wish flag).message
  | _ => none

/-- What is written about an error. -/
def complaint? : StartupEnd → Option String
  | arguments (.wish _) => none
  | arguments error => some error.message
  | settings error => some ("Error: " ++ error.message)
  | noConnections | ready _ => none

end StartupEnd

end Querent

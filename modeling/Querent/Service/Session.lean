import Querent.Assistant.Backend
import Querent.History.Usage
import Querent.Http.Request
import Querent.Settings.Basic
import Querent.Sql.Watched
import Querent.Table.Report

/-!
# Sessions

The service at work.  What lies outside of it, the assistant, the database and the clock, is given by
the answers it will yield, each call with its number.  A session keeps the history, and the list of
all that the service has done to the outside, so that it can be told afterwards what was asked of the
assistant, what was executed and what was recorded, and in which order.
-/

namespace Querent

/-- What a query yields. -/
structure ResultSet where
  table : Table
  milliseconds : Nat

namespace Service

/-- What a clock shows: the time, and the milliseconds since the service was started. -/
structure ClockReading where
  moment : Calendar.Moment
  milliseconds : Nat

/-- What lies outside of the service; a call is told how many calls of its kind came before it. -/
structure Outside where
  schema : Nat → Except String String
  generate : Nat → SqlRequest → Log.Logged (Except AssistantError String)
  execute : Nat → String → Except String ResultSet
  clock : Nat → ClockReading

/-- Something that the service does to the outside, and what comes of it. -/
inductive Deed where
  | readSchema (outcome : Except String String)
  | generated (request : SqlRequest) (outcome : Except AssistantError String)
  | executed (sql : String) (outcome : Except String ResultSet)
  | readClock
  | recorded (entry : HistoryEntry)
  | reported (event : Log.Event)

namespace Deed

/-- Whether the schema was read. -/
def isSchema : Deed → Bool
  | readSchema _ => true
  | _ => false

/-- Whether the clock was read. -/
def isClock : Deed → Bool
  | readClock => true
  | _ => false

/-- The request with which the assistant was called. -/
def request? : Deed → Option SqlRequest
  | generated request _ => some request
  | _ => none

/-- The query that was executed. -/
def executed? : Deed → Option String
  | executed sql _ => some sql
  | _ => none

/-- The entry that was recorded. -/
def historyEntry : Deed → Option HistoryEntry
  | recorded entry => some entry
  | _ => none

/-- The event that was reported. -/
def event? : Deed → Option Log.Event
  | reported event => some event
  | _ => none

end Deed

/-- The service: its settings and what lies outside of it. -/
structure Server where
  settings : Settings
  outside : Outside

/-- A session: its history and all that was done so far. -/
structure Session where
  history : History
  deeds : List Deed

/-- The session in which nothing was done. -/
def Session.start (server : Server) : Session :=
  ⟨.empty server.settings.historyCapacity, []⟩

/-- Work of the service. -/
abbrev Work := ReaderT Server (StateM Session)

namespace Work

/-- The settings of the service. -/
def settings : Work Settings := do
  return (← read).settings

/-- The dialect of the queries. -/
def dialect : Work Sql.Dialect := do
  return (← settings).database.dialect

/-- Adds to what was done. -/
def did (deed : Deed) : Work Unit :=
  modify fun session => { session with deeds := session.deeds ++ [deed] }

/-- The number of deeds of a kind. -/
def count (kind : Deed → Bool) : Work Nat := do
  return (← get).deeds.countP kind

/-- Does work that reports events. -/
def logged {α : Type} (work : Log.Logged α) : Work α := do
  let (outcome, events) := work.result
  events.forM fun event => did (.reported event)
  return outcome

/-- The source of what the service reports. -/
def source : String := "nl_analyst::web::handlers::api"

/-- Reports an event. -/
def note (level : Log.Level) (message : String) : Work Unit :=
  did (.reported (Log.event level source message))

/-- Reads the schema of the database. -/
def schema : Work (Except String String) := do
  let outcome := (← read).outside.schema (← count Deed.isSchema)
  did (.readSchema outcome)
  return outcome

/-- Asks the assistant for a query. -/
def generate (request : SqlRequest) : Work (Except AssistantError String) := do
  let calls ← count fun deed => deed.request?.isSome
  let outcome ← logged ((← read).outside.generate calls request)
  did (.generated request outcome)
  return outcome

/-- Executes a query. -/
def execute (sql : String) : Work (Except String ResultSet) := do
  let calls ← count fun deed => deed.executed?.isSome
  let outcome := (← read).outside.execute calls sql
  did (.executed sql outcome)
  return outcome

/-- What the clock shows. -/
def now : Work ClockReading := do
  let reading := (← read).outside.clock (← count Deed.isClock)
  did .readClock
  return reading

/-- Records an entry. -/
def record (entry : HistoryEntry) : Work Unit := do
  modify fun session => { session with history := session.history.record entry }
  did (.recorded entry)

end Work

end Service

end Querent

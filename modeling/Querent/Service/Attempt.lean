import Querent.Service.Session
import Querent.Sql.Correction

/-!
# Attempts

The way of a query to the database: the gateway judges it, and what the gateway lets through is
executed in its canonical text, once.  However an attempt ends, it is recorded.
-/

namespace Querent.Service

/-- How an attempt ends. -/
inductive Attempt where
  | answered (sql : String) (result : ResultSet)
  | rejected (rejection : Sql.Rejection)
  /-- The database could not execute the query. -/
  | failed (sql message : String)

namespace Attempt

open Work

/-- Records that a query was answered. -/
def recordAnswer (prompt sql : String) (result : ResultSet) : Work Unit := do
  let reading ← now
  record (.success prompt sql result.table.rows.length result.milliseconds reading.moment)

/-- Records that a query was not answered, with the time since the attempt started. -/
def recordFailure (prompt sql : String) (status : AttemptStatus) (message : String)
    (started : ClockReading) : Work Unit := do
  let reading ← now
  record (.failure prompt sql status message (reading.milliseconds - started.milliseconds)
    reading.moment)

/-- Executes a query that was let through. -/
def execute (prompt sql : String) (started : ClockReading) : Work Attempt := do
  match ← Work.execute sql with
  | .ok result =>
    recordAnswer prompt sql result
    return answered sql result
  | .error message =>
    recordFailure prompt sql .error message started
    return failed sql message

/-- Judges and executes a query, which is announced before it is executed. -/
def run (prompt text : String) (started : ClockReading) (announce : String → Work Unit) :
    Work Attempt := do
  match ← logged (Sql.watchedVerdict (← dialect) text) with
  | .ok sql =>
    announce sql
    execute prompt sql started
  | .error rejection =>
    recordFailure prompt text .rejected rejection.message started
    return rejected rejection

end Attempt

/-- An error that is sent back, perhaps with advice. -/
structure Refusal where
  status : Nat
  error : String
  suggestion : Option String
  deriving DecidableEq, Repr

namespace Refusal

/-- An error as a document. -/
def json (refusal : Refusal) : Json :=
  .ofFields (("error", .string refusal.error) ::
    Json.optionalField "suggestion" (refusal.suggestion.map .string))

/-- An error as a response. -/
def response (refusal : Refusal) : Http.Response :=
  ⟨refusal.status, .document refusal.json⟩

/-- An error without advice. -/
def plain (status : Nat) (error : String) : Refusal :=
  ⟨status, error, none⟩

/-- An error with advice on the query that led to it. -/
def advised (status : Nat) (query error : String) : Refusal :=
  ⟨status, error, some (Sql.suggestCorrection query error)⟩

/-- The error for a schema that cannot be read. -/
def noSchema : Refusal :=
  plain 500 "Failed to load database schema"

end Refusal

/-- A response with a document. -/
def answer (fields : Json.Fields) : Http.Response :=
  ⟨200, .document (.ofFields fields)⟩

/-- The fields of a response that tell the result of a query. -/
def resultFields (sql : String) (result : ResultSet) : Json.Fields :=
  [("sql", .string sql), ("columns", Json.ofStrings result.table.columns),
    ("rows", .array (result.table.rows.map .object)),
    ("rowCount", .integer result.table.rows.length),
    ("executionTimeMs", .integer result.milliseconds)]

end Querent.Service

import Querent.Calendar.Reading
import Querent.Json.Decoder

/-!
# History

The log of answered questions and executed queries.  It holds the latest entries up to its capacity,
the newest first.  An entry is written as a document and read back from one.
-/

namespace Querent

/-- How an attempt to answer a question or to execute a query ended. -/
inductive AttemptStatus where
  | success
  /-- The query was not let through and not executed. -/
  | rejected
  | error
  deriving DecidableEq, Repr

/-- The name of a status. -/
def AttemptStatus.name : AttemptStatus → String
  | success => "success"
  | rejected => "rejected"
  | error => "error"

/-- A finished attempt. -/
structure HistoryEntry where
  prompt : String
  sql : String
  resultCount : Nat
  milliseconds : Nat
  status : AttemptStatus
  errorMessage : Option String
  createdAt : Calendar.Moment
  deriving DecidableEq

namespace HistoryEntry

/-- An attempt that ended with rows. -/
def success (prompt sql : String) (rows milliseconds : Nat) (now : Calendar.Moment) :
    HistoryEntry :=
  ⟨prompt, sql, rows, milliseconds, .success, none, now⟩

/-- An attempt that ended with an error, after so many milliseconds. -/
def failure (prompt sql : String) (status : AttemptStatus) (message : String) (milliseconds : Nat)
    (now : Calendar.Moment) : HistoryEntry :=
  ⟨prompt, sql, 0, milliseconds, status, some message, now⟩

/-- An entry as a document. -/
def json (entry : HistoryEntry) : Json :=
  .ofFields ([("prompt", .string entry.prompt), ("sqlQuery", .string entry.sql),
      ("resultCount", .integer entry.resultCount),
      ("executionTimeMs", .integer entry.milliseconds), ("status", .string entry.status.name),
      ("createdAt", .string entry.createdAt.text)] ++
    Json.optionalField "errorMessage" (entry.errorMessage.map .string))

open Json (Decoded Decoder)

/-- A moment in its text. -/
def momentDecoder : Decoder Calendar.Moment
  | .leaf (.string text) finish =>
    match Calendar.Moment.read text with
    | .ok moment => .ok moment
    | .error error => Json.misshapen error.message finish
  | node => Json.wrongType "an RFC 3339 formatted date and time string" node

/-- A status by its name. -/
def statusDecoder : Decoder AttemptStatus :=
  Decoder.choice [("success", .success), ("rejected", .rejected), ("error", .error)]

/-- The values of an entry that are known so far. -/
structure Draft where
  prompt : Option String
  sql : Option String
  resultCount : Option Nat
  milliseconds : Option Nat
  status : Option AttemptStatus
  errorMessage : Option String
  createdAt : Option Calendar.Moment

/-- The shape of an entry. -/
def shape : Decoder.Shape Draft HistoryEntry where
  name := "QueryHistoryItem"
  fields := [
    Decoder.required "prompt" Decoder.string fun v draft => { draft with prompt := some v },
    Decoder.required "sqlQuery" Decoder.string fun v draft => { draft with sql := some v },
    Decoder.required "resultCount" (Decoder.natural "usize")
      fun v draft => { draft with resultCount := some v },
    Decoder.required "executionTimeMs" (Decoder.natural "u64")
      fun v draft => { draft with milliseconds := some v },
    Decoder.required "status" statusDecoder fun v draft => { draft with status := some v },
    Decoder.required "errorMessage" (Decoder.optional Decoder.string)
      fun v draft => { draft with errorMessage := v },
    Decoder.required "createdAt" momentDecoder fun v draft => { draft with createdAt := some v }]
  start := ⟨none, none, none, none, none, none, none⟩
  finish := fun draft => do
    return {
      prompt := ← Decoder.need "prompt" draft.prompt
      sql := ← Decoder.need "sqlQuery" draft.sql
      resultCount := ← Decoder.need "resultCount" draft.resultCount
      milliseconds := ← Decoder.need "executionTimeMs" draft.milliseconds
      status := ← Decoder.need "status" draft.status
      errorMessage := draft.errorMessage
      createdAt := ← Decoder.need "createdAt" draft.createdAt }

/-- The entry that a document stands for. -/
def decode (document : Json) : Except Json.DecodeError HistoryEntry :=
  Json.decodeValue (Decoder.record shape) document

end HistoryEntry

/-- The latest entries, the newest first. -/
structure History where
  capacity : Nat
  entries : List HistoryEntry

namespace History

/-- A history without entries. -/
def empty (capacity : Nat) : History :=
  ⟨capacity, []⟩

/-- Adds an entry; the oldest entry makes room for it in a full history. -/
def record (history : History) (entry : HistoryEntry) : History :=
  if history.capacity == 0 then history
  else
    let kept :=
      if history.entries.length == history.capacity then history.entries.dropLast
      else history.entries
    { history with entries := entry :: kept }

/-- The newest entries, at most so many. -/
def recent (history : History) (limit : Nat) : List HistoryEntry :=
  history.entries.take limit

/-- The number of entries. -/
def size (history : History) : Nat :=
  history.entries.length

/-- Whether there are no entries. -/
def isEmpty (history : History) : Bool :=
  history.entries.isEmpty

/-- Recording does not change the capacity. -/
@[simp]
theorem capacity_record (history : History) (entry : HistoryEntry) :
    (history.record entry).capacity = history.capacity := by
  unfold record
  split <;> rfl

end History

end Querent

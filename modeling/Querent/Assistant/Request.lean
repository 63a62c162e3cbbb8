import Querent.Json.Decoder

/-!
# Requests for a query

What an assistant is asked for: a query that answers a question about a database, and after a failed
attempt what went wrong with it.
-/

namespace Querent

/-- What went wrong with an earlier query. -/
structure Feedback where
  sql : String
  error : String
  suggestion : String
  deriving DecidableEq, Repr

/-- A question about a database, and what went wrong with the last attempt to answer it. -/
structure SqlRequest where
  question : String
  schema : String
  feedback : Option Feedback
  deriving DecidableEq, Repr

namespace Feedback

/-- Feedback as a document. -/
def json (feedback : Feedback) : Json :=
  .ofFields [("sql", .string feedback.sql), ("error", .string feedback.error),
    ("suggestion", .string feedback.suggestion)]

open Json (Decoder)

/-- The values of feedback that are known so far. -/
structure Draft where
  sql : Option String
  error : Option String
  suggestion : Option String

/-- The shape of feedback. -/
def shape : Decoder.Shape Draft Feedback where
  name := "AttemptFeedback"
  fields := [
    Decoder.required "sql" Decoder.string fun v draft => { draft with sql := some v },
    Decoder.required "error" Decoder.string fun v draft => { draft with error := some v },
    Decoder.required "suggestion" Decoder.string fun v draft => { draft with suggestion := some v }]
  start := ⟨none, none, none⟩
  finish := fun draft => do
    let sql ← Decoder.need "sql" draft.sql
    let error ← Decoder.need "error" draft.error
    let suggestion ← Decoder.need "suggestion" draft.suggestion
    return ⟨sql, error, suggestion⟩

end Feedback

namespace SqlRequest

/-- A request as a document. -/
def json (request : SqlRequest) : Json :=
  .ofFields [("question", .string request.question), ("schema", .string request.schema),
    ("feedback", (request.feedback.map Feedback.json).getD .null)]

open Json (Decoder)

/-- The values of a request that are known so far. -/
structure Draft where
  question : Option String
  schema : Option String
  feedback : Option Feedback

/-- The shape of a request. -/
def shape : Decoder.Shape Draft SqlRequest where
  name := "SqlRequest"
  fields := [
    Decoder.required "question" Decoder.string fun v draft => { draft with question := some v },
    Decoder.required "schema" Decoder.string fun v draft => { draft with schema := some v },
    Decoder.required "feedback" (Decoder.optional (Decoder.record Feedback.shape))
      fun v draft => { draft with feedback := v }]
  start := ⟨none, none, none⟩
  finish := fun draft => do
    let question ← Decoder.need "question" draft.question
    let schema ← Decoder.need "schema" draft.schema
    return ⟨question, schema, draft.feedback⟩

/-- The request that a document stands for. -/
def decode (document : Json) : Except Json.DecodeError SqlRequest :=
  Json.decodeValue (Decoder.record shape) document

end SqlRequest

end Querent

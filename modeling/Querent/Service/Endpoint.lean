import Querent.Service.Body
import Querent.Service.Question

/-!
# Endpoints

What the service can be asked for, each with a path of its own: to answer a question, to execute,
judge, explain or correct a query, to analyse rows, and to tell its schema, its history, figures about
its history, and its state.
-/

namespace Querent.Service

open Work

/-- Something that the service can be asked for. -/
inductive Endpoint where
  | ask
  | query
  | validate
  | explain
  | suggest
  | analyze
  | schema
  | history
  | analytics
  | status
  deriving DecidableEq, Repr

namespace Endpoint

/-- All endpoints. -/
def all : List Endpoint :=
  [ask, query, validate, explain, suggest, analyze, schema, history, analytics, status]

/-- The path of an endpoint. -/
def path : Endpoint → String
  | ask => "/api/ask"
  | query => "/api/query"
  | validate => "/api/validate"
  | explain => "/api/explain"
  | suggest => "/api/suggest"
  | analyze => "/api/analyze"
  | schema => "/api/schema"
  | history => "/api/history"
  | analytics => "/api/analytics"
  | status => "/api/status"

/-- The endpoint with a path. -/
def ofPath? (path : String) : Option Endpoint :=
  all.find? (·.path == path)

/-- Whether an endpoint takes a body. -/
def takesBody : Endpoint → Bool
  | ask | query | validate | explain | suggest | analyze => true
  | schema | history | analytics | status => false

/-- Whether an endpoint can be asked for with a method. -/
def accepts (endpoint : Endpoint) (method : String) : Bool :=
  if endpoint.takesBody then method == "POST" else method == "GET" || method == "HEAD"

end Endpoint

/-- The response to a query that is to be executed. -/
def respondQuery (body : QueryBody) : Work Http.Response := do
  let started ← now
  let announce (sql : String) : Work Unit := note .info ("Executing query: " ++ sql)
  match ← Attempt.run (body.question.getD "") body.query started announce with
  | .answered sql result => return answer (resultFields sql result)
  | .rejected rejection => return (Refusal.advised 400 body.query rejection.message).response
  | .failed sql message => return (Refusal.advised 500 sql message).response

/-- The response to a query that is to be judged. -/
def respondValidate (body : TextBody) : Work Http.Response := do
  let verdict ← logged (Sql.watchedVerdict (← dialect) body.query)
  return ⟨200, .document (Sql.verdictJson verdict)⟩

/-- The response to a query that is to be explained. -/
def respondExplain (body : TextBody) : Work Http.Response := do
  let explanation ← logged (Sql.watchedExplanation (← dialect) body.query)
  return answer [("explanation", .string explanation)]

/-- The response to a query that is to be corrected. -/
def respondSuggest (body : FailureBody) : Http.Response :=
  answer [("suggestion", .string (Sql.suggestCorrection body.query body.error))]

/-- The response to rows that are to be analysed. -/
def respondAnalyze (body : RowsBody) : Http.Response :=
  ⟨200, .document (Report.ofTable body.table).json⟩

/-- The response that tells the schema. -/
def respondSchema : Work Http.Response := do
  match ← schema with
  | .ok text => return answer [("ddl", .string text)]
  | .error error =>
    note .error ("Failed to load schema: " ++ error)
    return Refusal.noSchema.response

/-- The response that tells the newest entries of the history, at most so many. -/
def respondHistory (limit : Option Nat) : Work Http.Response := do
  let entries := (← get).history.recent (limit.getD (← settings).historyCapacity)
  return ⟨200, .document (.array (entries.map HistoryEntry.json))⟩

/-- The response that tells figures about the history. -/
def respondAnalytics : Work Http.Response := do
  return ⟨200, .document (← get).history.usage.json⟩

/-- The version of the service. -/
def version : String := "0.1.0"

/-- The response that tells the state of the service. -/
def respondStatus : Work Http.Response := do
  let settings ← settings
  let reading ← now
  return answer [("version", .string version),
    ("uptimeSeconds", .integer (reading.milliseconds / 1000 : Nat)),
    ("dialect", .string settings.database.dialect.name),
    ("readOnly", .bool settings.database.readOnly),
    ("llmBackend", .string settings.assistant.backend),
    ("historyCount", .integer (← get).history.size)]

/-- Responds to what a request carries, or that it does not carry it. -/
def responding {α : Type} (content : Except Http.Response α) (respond : α → Work Http.Response) :
    Work Http.Response :=
  match content with
  | .ok content => respond content
  | .error response => pure response

open Json (Decoder)

/-- The response of an endpoint. -/
def Endpoint.respond (request : Http.Request) : Endpoint → Work Http.Response
  | ask =>
    responding (decodeBody (Decoder.record QuestionBody.shape) request)
      fun body => Question.respond body.question
  | query => responding (decodeBody (Decoder.record QueryBody.shape) request) respondQuery
  | validate => responding (decodeBody (Decoder.record TextBody.shape) request) respondValidate
  | explain => responding (decodeBody (Decoder.record TextBody.shape) request) respondExplain
  | suggest =>
    responding (decodeBody (Decoder.record FailureBody.shape) request)
      fun body => pure (respondSuggest body)
  | analyze =>
    responding (decodeBody (Decoder.record RowsBody.shape) request)
      fun body => pure (respondAnalyze body)
  | schema => respondSchema
  | history => responding (decodeLimit request.query) respondHistory
  | analytics => respondAnalytics
  | status => respondStatus

/-- A response as it is sent back to a method; one of the methods wants no body. -/
def sentTo (method : String) (response : Http.Response) : Http.Response :=
  if method == "HEAD" then .bare response.status else response

/-- The response to a request that is routed by its path and its method. -/
def route (request : Http.Request) : Work Http.Response :=
  match Endpoint.ofPath? request.path with
  | none => pure (.bare 404)
  | some endpoint =>
    if endpoint.accepts request.method then
      sentTo request.method <$> endpoint.respond request
    else pure (.bare 405)

/-- What is reported about a response by which the service fails, after so many milliseconds. -/
def failureEvent (status milliseconds : Nat) : Log.Event :=
  ⟨.error, "tower_http::trace::on_failure", "response failed",
    [("classification", "Status code: " ++ Http.statusText status),
      ("latency", toString milliseconds ++ " ms")]⟩

/-- Reports a response by which the service fails, with the time since the request came. -/
def reportFailure (status : Nat) (started : ClockReading) : Work Unit := do
  if Http.isServerError status then
    let reading ← now
    did (.reported (failureEvent status (reading.milliseconds - started.milliseconds)))

/-- The response to a request; a request for the options of the service is always granted. -/
def respond (request : Http.Request) : Work Http.Response := do
  if request.method == "OPTIONS" then return .bare 200
  else
    let started ← now
    let response ← route request
    reportFailure response.status started
    return response

/-- The response to a request and the session after it. -/
def Server.step (server : Server) (session : Session) (request : Http.Request) :
    Http.Response × Session :=
  ((respond request).run server).run session

/-- The responses to requests, each with the session after it. -/
def Server.run (server : Server) : Session → List Http.Request → List (Http.Response × Session)
  | _, [] => []
  | session, request :: rest =>
    let result := server.step session request
    result :: server.run result.2 rest

end Querent.Service

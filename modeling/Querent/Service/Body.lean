import Querent.Http.MediaType
import Querent.Http.Request
import Querent.Decimal.Whole
import Querent.Json.Decoder
import Querent.Table.Basic

/-!
# Contents of requests

What requests carry, and what is sent back when a request does not carry it: a body that is not said
to be a document, that is no document, or that is one of the wrong shape, and a query with a limit
that is no number.
-/

namespace Querent.Service

open Json (Decoder)

/-- The longest body that is looked at, in bytes. -/
def longestBody : Nat := 2 * 1024 * 1024

/-- What a body says, or the response to a body that does not say it. -/
def decodeBody {α : Type} (decoder : Decoder α) (request : Http.Request) :
    Except Http.Response α :=
  if !(request.contentType.any Http.isDocumentType) then
    .error ⟨415, .text "Expected request with \x60Content-Type: application/json\x60"⟩
  else if longestBody < request.body.utf8ByteSize then
    .error ⟨413, .text "Failed to buffer the request body: length limit exceeded"⟩
  else
    match Json.decodeText decoder request.body with
    | .ok content => .ok content
    | .error error =>
      if error.isFault then
        .error ⟨400, .text ("Failed to parse the request body as JSON: " ++ error.located)⟩
      else
        .error ⟨422, .text ("Failed to deserialize the JSON body into the target type: " ++
          error.located)⟩

/-- A question. -/
structure QuestionBody where
  question : String

/-- A query, and perhaps the question that it is to answer. -/
structure QueryBody where
  query : String
  question : Option String

/-- A query and nothing else. -/
structure TextBody where
  query : String

/-- A query and the error to which it led. -/
structure FailureBody where
  query : String
  error : String

/-- Rows, and perhaps the names of the columns that are looked at. -/
structure RowsBody where
  rows : List Row
  columns : Option (List String)

/-- The shape of a question. -/
def QuestionBody.shape : Decoder.Shape (Option String) QuestionBody where
  name := "AskRequest"
  fields := [Decoder.required "question" Decoder.string fun v _ => some v]
  start := none
  finish := fun question => QuestionBody.mk <$> Decoder.need "question" question

/-- The shape of a query with a question. -/
def QueryBody.shape : Decoder.Shape (Option String × Option String) QueryBody where
  name := "ExecuteQueryRequest"
  fields := [
    Decoder.required "query" Decoder.string fun v (_, question) => (some v, question),
    Decoder.defaulted "question" (Decoder.optional Decoder.string) fun v (query, _) => (query, v)]
  start := (none, none)
  finish := fun (query, question) => do
    return ⟨← Decoder.need "query" query, question⟩

/-- The shape of a query. -/
def TextBody.shape : Decoder.Shape (Option String) TextBody where
  name := "SqlTextRequest"
  fields := [Decoder.required "query" Decoder.string fun v _ => some v]
  start := none
  finish := fun query => TextBody.mk <$> Decoder.need "query" query

/-- The shape of a query with an error. -/
def FailureBody.shape : Decoder.Shape (Option String × Option String) FailureBody where
  name := "SuggestRequest"
  fields := [
    Decoder.required "query" Decoder.string fun v (_, error) => (some v, error),
    Decoder.required "error" Decoder.string fun v (query, _) => (query, some v)]
  start := (none, none)
  finish := fun (query, error) => do
    return ⟨← Decoder.need "query" query, ← Decoder.need "error" error⟩

/-- The shape of rows, which a question may accompany. -/
def RowsBody.shape : Decoder.Shape (Option (List Row) × Option (List String)) RowsBody where
  name := "AnalyzeRequest"
  fields := [
    Decoder.required "rows" (Decoder.list Decoder.fields) fun v (_, columns) => (some v, columns),
    Decoder.defaulted "columns" (Decoder.optional (Decoder.list Decoder.string))
      fun v (rows, _) => (rows, v),
    Decoder.defaulted "question" Decoder.string fun _ known => known]
  start := (none, none)
  finish := fun (rows, columns) => do
    return ⟨← Decoder.need "rows" rows, columns⟩

/-- The table of rows; without names of columns, those of the first row are taken. -/
def RowsBody.table (body : RowsBody) : Table :=
  let found := match body.rows with
    | row :: _ => row.map Prod.fst
    | [] => []
  ⟨body.columns.getD found, body.rows⟩

/-- Why a query of a target cannot be used. -/
def unusableQuery (reason : String) : Http.Response :=
  ⟨400, .text ("Failed to deserialize query string: " ++ reason)⟩

/-- The limit in a query of a target, which may be given once. -/
def decodeLimit (query : String) : Except Http.Response (Option Nat) :=
  let given := ((Http.queryPairs query).filter (·.1 == "limit")).map Prod.snd
  match given with
  | [] => .ok none
  | first :: rest =>
    match Decimal.readNatural first, rest with
    | .error error, _ => .error (unusableQuery ("limit: " ++ error.message))
    | .ok n, [] => .ok (some n)
    | .ok _, _ :: _ => .error (unusableQuery "duplicate field \x60limit\x60")

end Querent.Service

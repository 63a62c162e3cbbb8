import Querent.Assistant.Extraction
import Querent.Assistant.Prompt
import Querent.Http.Status
import Querent.Log.Event

/-!
# Backends

The services that write queries.  A backend says how a request for a query is sent and what a reply
to it means; the exchange itself is not its business.  A reply that is not a success never yields a
query, and neither does one whose query is empty.
-/

namespace Querent

/-- Why there is no query. -/
inductive AssistantError where
  | connection (reason : String)
  | response (reason : String)
  | configuration (reason : String)
  deriving DecidableEq, Repr

/-- The wording of an error. -/
def AssistantError.message : AssistantError → String
  | connection reason => "LLM connection error: " ++ reason
  | response reason => "LLM response error: " ++ reason
  | configuration reason => "LLM configuration error: " ++ reason

/-- How an assistant is chosen. -/
structure AssistantSettings where
  backend : String
  model : String
  apiKey : Option String
  apiUrl : Option String
  /-- How often a query is asked for in answer to one question. -/
  maxAttempts : Nat
  deriving DecidableEq, Repr

/-- A service that writes queries. -/
inductive Backend where
  /-- A service that continues a prompt. -/
  | completion (url model : String)
  /-- A service that replies to messages. -/
  | chat (url key model : String)
  deriving DecidableEq, Repr

/-- What is sent to a service. -/
structure Call where
  url : String
  authorization : Option String
  body : Json

/-- What comes back from a service. -/
inductive Reply where
  | unreachable (reason : String)
  | answered (status : Nat) (body : String)

namespace Backend

/-- The address of a service that continues a prompt, if no other is given. -/
def completionUrl : String := "http://localhost:11434/api/generate"

/-- The backend that settings ask for. -/
def ofSettings (settings : AssistantSettings) : Except AssistantError Backend :=
  match settings.backend with
  | "remote" =>
    match settings.apiUrl, settings.apiKey with
    | none, _ => .error (.configuration "API URL is required for remote LLM provider")
    | some _, none => .error (.configuration "API key is required for remote LLM provider")
    | some url, some key => .ok (.chat url key settings.model)
  | "ollama" => .ok (.completion (settings.apiUrl.getD completionUrl) settings.model)
  | other => .error (.configuration ("Unsupported LLM backend: " ++ other))

/-- How freely the service writes. -/
def temperature : Float := 0.1

/-- The longest reply, in the units of the service. -/
def longestReply : Nat := 2000

/-- How a prompt is sent. -/
def call (backend : Backend) (prompt : String) : Call :=
  match backend with
  | completion url model =>
    ⟨url, none, .ofFields [("model", .string model), ("prompt", .string prompt),
      ("temperature", .float temperature), ("stream", .bool false)]⟩
  | chat url key model =>
    ⟨url, some ("Bearer " ++ key), .ofFields [("model", .string model),
      ("messages", .array [.ofFields [("role", .string "user"), ("content", .string prompt)]]),
      ("temperature", .float temperature), ("max_tokens", .integer longestReply)]⟩

open Json (Decoder)

/-- The shape of a record with a single field. -/
def singleField {α : Type} (name field : String) (decoder : Decoder α) :
    Decoder.Shape (Option α) α where
  name := name
  fields := [Decoder.required field decoder fun v _ => some v]
  start := none
  finish := Decoder.need field

/-- The text in the reply of a service that continues a prompt. -/
def completionReply : Decoder String :=
  Decoder.record (singleField "OllamaResponse" "response" Decoder.string)

/-- The texts in the reply of a service that replies to messages. -/
def chatReply : Decoder (List String) :=
  Decoder.record (singleField "PromptResponse" "choices" (Decoder.list
    (Decoder.record (singleField "Choice" "message"
      (Decoder.record (singleField "ResponseMessage" "content" Decoder.string))))))

/-- The source of what is reported about prompts and replies. -/
def promptSource : String := "nl_analyst::llm::prompt"

/-- The source of what is reported about a service that continues a prompt. -/
def completionSource : String := "nl_analyst::llm::providers::ollama"

/-- The source of what is reported about a service that replies to messages. -/
def chatSource : String := "nl_analyst::llm::providers::remote"

/-- The prompt for a request. -/
def preparePrompt (request : SqlRequest) : Log.Logged String := do
  let prompt := Prompt.text request
  Log.note .debug promptSource ("Prepared LLM prompt: " ++ prompt)
  return prompt

/-- The query in the text of a reply. -/
def extract (reply : String) : Log.Logged String := do
  let extraction := Extraction.ofReply reply
  match extraction.remark? with
  | some remark => Log.note .debug promptSource remark
  | none => pure ()
  return extraction.sql

/-- The query in the text of a reply, which must not be empty. -/
def queryOf (reply : String) : Log.Logged (Except AssistantError String) := do
  let sql ← extract reply
  if sql.isEmpty then
    return .error (.response "Failed to extract valid SQL from response")
  else return .ok sql

/-- A text without the mark for the order of bytes that it may start with. -/
def withoutByteOrderMark (body : String) : String :=
  match body.toList with
  | '\ufeff' :: rest => String.ofList rest
  | _ => body

/-- What is reported before a prompt is written. -/
def announce : Backend → Log.Logged Unit
  | completion url model => do
    Log.note .info completionSource ("Sending request to Ollama with model: " ++ model)
    Log.note .debug completionSource ("API URL: " ++ url)
  | chat _ _ model =>
    Log.note .info chatSource ("Sending request to remote LLM with model: " ++ model)

/-- The query in the reply of a service that continues a prompt. -/
def readCompletion (status : Nat) (body : String) : Log.Logged (Except AssistantError String) := do
  let text := withoutByteOrderMark body
  if !Http.isSuccess status then
    let message := "Ollama API responded with status code: " ++ Http.statusText status ++
      " - Response body: " ++ text
    Log.note .error completionSource message
    return .error (.response message)
  else
    Log.note .debug completionSource ("Raw response from Ollama: " ++ text)
    match Json.decodeText completionReply text with
    | .ok reply => queryOf reply
    | .error error =>
      let message := "Failed to parse Ollama response: " ++ error.message
      Log.note .error completionSource (message ++ " - Response was: " ++ text)
      return .error (.response message)

/-- The query in the reply of a service that replies to messages. -/
def readChat (status : Nat) (body : String) : Log.Logged (Except AssistantError String) := do
  if !Http.isSuccess status then
    return .error (.response ("API responded with status code: " ++ Http.statusText status))
  else
    match Json.decodeText chatReply body with
    | .error _ => return .error (.response "error decoding response body")
    | .ok [] => return .error (.response "No choices in response")
    | .ok (reply :: _) =>
      Log.note .debug chatSource ("Remote LLM reply: " ++ reply)
      queryOf reply

/-- The query in a reply. -/
def read (backend : Backend) : Reply → Log.Logged (Except AssistantError String)
  | .unreachable reason => return .error (.connection reason)
  | .answered status body =>
    let body := if Http.isBodiless status then "" else body
    match backend with
    | completion .. => readCompletion status body
    | chat .. => readChat status body

/-- Asks for a query, given how a call is exchanged for a reply. -/
def generate (backend : Backend) (exchange : Call → Log.Logged Reply) (request : SqlRequest) :
    Log.Logged (Except AssistantError String) := do
  announce backend
  let prompt ← preparePrompt request
  read backend (← exchange (call backend prompt))

end Backend

end Querent

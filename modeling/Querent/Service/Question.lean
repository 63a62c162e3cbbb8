import Querent.Service.Attempt

/-!
# Questions

A question is answered by a query that the assistant writes.  If an attempt fails, the assistant is
told what went wrong and asked again, until the attempts are used up.  If the assistant itself fails,
nothing more is attempted.
-/

namespace Querent.Service.Question

open Work

/-- What follows from an attempt: a response, or a new request in place of a refusal. -/
inductive Outcome where
  | final (response : Http.Response)
  | again (request : SqlRequest) (refusal : Refusal)

/-- The response to a question that was answered by an attempt with the given number. -/
def answered (question sql : String) (result : ResultSet) (number : Nat) :
    Work Http.Response := do
  let report := Report.ofTable result.table
  let explanation ← logged (Sql.watchedExplanation (← dialect) sql)
  return answer (resultFields sql result ++
    [("question", .string question), ("explanation", .string explanation),
      ("attempts", .integer number), ("analysis", report.json)])

/-- What follows from an attempt that failed: its query and its message become feedback. -/
def retry (limit number : Nat) (request : SqlRequest) (text : String) (status : Nat)
    (message : String) : Work Outcome := do
  note .warn ("Attempt " ++ toString number ++ " of " ++ toString limit ++ " failed: " ++ message)
  let feedback : Feedback := ⟨text, message, Sql.suggestCorrection text message⟩
  return .again { request with feedback := some feedback } (.advised status text message)

/-- An attempt to answer a question with a query for a request. -/
def attempt (limit number : Nat) (request : SqlRequest) : Work Outcome := do
  let started ← now
  match ← generate request with
  | .error error =>
    note .error ("LLM error: " ++ error.message)
    return .final (Refusal.plain 502 error.message).response
  | .ok text =>
    note .debug ("Attempt " ++ toString number ++ " generated SQL: " ++ text)
    match ← Attempt.run request.question text started fun _ => pure () with
    | .answered sql result => .final <$> answered request.question sql result number
    | .rejected rejection => retry limit number request text 400 rejection.message
    | .failed _ message => retry limit number request text 500 message

/--
Attempts to answer a question: so many of them are left, the next one has the given number, and the
last refusal stands when none is left.
-/
def attempts (limit : Nat) : Nat → Nat → SqlRequest → Refusal → Work Http.Response
  | 0, _, _, last => return last.response
  | left + 1, number, request, _ => do
    match ← attempt limit number request with
    | .final response => return response
    | .again request refusal => attempts limit left (number + 1) request refusal

/-- The refusal that would stand if nothing was attempted at all. -/
def nothingAttempted : Refusal :=
  .plain 500 "No SQL was generated"

/-- How often a query is asked for, at least once. -/
def attemptLimit (settings : Settings) : Nat :=
  max settings.assistant.maxAttempts 1

/-- The response to a question; a question that is blank is refused. -/
def respond (text : String) : Work Http.Response := do
  let question := trimmed text
  if question.isEmpty then return (Refusal.plain 400 "Question cannot be empty").response
  else
    note .info ("Answering question: " ++ question)
    match ← schema with
    | .error error =>
      note .error ("Failed to load schema: " ++ error)
      return Refusal.noSchema.response
    | .ok schema =>
      let limit := attemptLimit (← settings)
      attempts limit limit 1 ⟨question, schema, none⟩ nothingAttempted

end Querent.Service.Question

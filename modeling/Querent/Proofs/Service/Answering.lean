import Querent.Proofs.Service.Dialogue
import Querent.Proofs.Service.Requests

/-!
# Answering questions

From a question to its response.  A blank question is refused, and so is every question while the
schema cannot be read.  Every other question is answered in a dialogue with the assistant, which
starts without feedback.  Its last round decides the response, so what would be said if nothing was
attempted is never said.
-/

namespace Querent.Service

variable {server : Server} {calls : Calls}

/-! ## Questions -/

/-- The response to a question and what is dealt until then, after so many calls. -/
inductive Answers (server : Server) (calls : Calls) (question : String) :
    Http.Response → List Deed → Prop where
  | blank (blank : question = "") :
    Answers server calls question (Refusal.plain 400 "Question cannot be empty").response []
  | schemaless {error : String} (asked : question ≠ "")
    (unknown : server.outside.schema calls.schemas = .error error) :
    Answers server calls question Refusal.noSchema.response [.readSchema (.error error)]
  | discussed {schema : String} {earlier : List Round} {final : Round} (asked : question ≠ "")
    (known : server.outside.schema calls.schemas = .ok schema)
    (dialogue : Dialogue server (Question.attemptLimit server.settings)
      (calls.after [.readSchema (.ok schema)]) ⟨question, schema, none⟩ (earlier ++ [final])) :
    Answers server calls question
      (final.response server.settings.database.dialect (earlier.length + 1))
      (.readSchema (.ok schema) :: (earlier ++ [final]).flatMap Round.deeds)

/-- A question that is not blank leads to a dialogue if the schema can be read. -/
theorem Answers.exists_dialogue {question schema : String} {response : Http.Response}
    {dealt : List Deed} (answers : Answers server calls question response dealt)
    (nonblank : question ≠ "") (known : server.outside.schema calls.schemas = .ok schema) :
    ∃ earlier final,
      Dialogue server (Question.attemptLimit server.settings)
        (calls.after [.readSchema (.ok schema)]) ⟨question, schema, none⟩ (earlier ++ [final]) ∧
      response = final.response server.settings.database.dialect (earlier.length + 1) ∧
      dealt = .readSchema (.ok schema) :: (earlier ++ [final]).flatMap Round.deeds := by
  cases answers with
  | blank blank => exact absurd blank nonblank
  | schemaless _ unknown =>
      rw [known] at unknown
      cases unknown
  | @discussed _ earlier final _ same dialogue =>
      rw [known] at same
      cases same
      exact ⟨earlier, final, dialogue, rfl, rfl⟩

theorem deals_question (text : String) :
    Deals server calls (Question.respond text) (Answers server calls (trimmed text)) := by
  unfold Question.respond
  simp only
  split
  next blank => exact .pure (.blank (by simpa using blank))
  next asked =>
    have asked : trimmed text ≠ "" := by simpa using asked
    refine (idle_note _ _).before fun _ => ?_
    refine deals_schema.bind ?_
    rintro outcome _ ⟨same, rfl⟩
    cases outcome with
    | error error =>
        refine (idle_note _ _).before fun _ => ?_
        exact .pure (.schemaless asked same.symm)
    | ok schema =>
        refine deals_settings.bind ?_
        rintro _ _ ⟨rfl, rfl⟩
        obtain ⟨left, limit⟩ : ∃ left, Question.attemptLimit server.settings = left + 1 :=
          Nat.exists_eq_add_of_le' (Nat.le_max_right _ 1)
        rw [limit]
        refine (deals_attempts (left + 1) left 1 _ _).mono ?_
        rintro response _ ⟨earlier, final, dialogue, rfl, rfl⟩
        rw [← limit] at dialogue
        rw [Nat.add_comm 1]
        exact .discussed asked same.symm dialogue

/-- The question that a request asks, without the blanks around it. -/
def asked? (request : Http.Request) : Option String :=
  (carried? .ask (Json.Decoder.record QuestionBody.shape) request).map fun body =>
    trimmed body.question

theorem deals_asked {request : Http.Request} {question : String}
    (asks : asked? request = some question) :
    Deals server calls (respond request) (Answers server calls question) := by
  obtain ⟨body, carried, rfl⟩ := Option.map_eq_some_iff.1 asks
  obtain ⟨reached, decoded⟩ := carried?_eq_some_iff.1 carried
  have responds : Endpoint.ask.respond request = Question.respond body.question := by
    simp only [Endpoint.respond, decoded, responding]
  refine (deals_respond reached (responds ▸ deals_question body.question)).mono ?_
  rintro _ dealt ⟨original, rfl, answers⟩
  rw [sentTo_of_takesBody reached rfl]
  exact answers

theorem Deed.request?_eq_none_of_isDealing (deed : Deed) (other : deed.isDealing = false) :
    deed.request? = none := by
  cases deed <;> first | rfl | cases other

theorem filterMap_request?_deeds (rounds : List Round) :
    (rounds.flatMap Round.deeds).filterMap Deed.request? = rounds.map Round.request := by
  induction rounds with
  | nil => rfl
  | cons round rest ih =>
      rw [List.flatMap_cons, List.filterMap_append, ih, List.map_cons]
      cases round with
      | unanswered request error => rfl
      | tried request trial =>
          obtain ⟨prompt, text, attempt, entry⟩ := trial
          cases attempt <;> rfl

/-! ## What a response says -/

/-- Whether a response tells the result of a query that answers a question. -/
structure Presents (response : Http.Response) (question sql : String) (result : ResultSet)
    (attempts : Nat) : Prop where
  status : response.status = 200
  question : response.field? "question" = some (.string question)
  sql : response.field? "sql" = some (.string sql)
  attempts : response.field? "attempts" = some (.integer attempts)
  columns : response.field? "columns" = some (Json.ofStrings result.table.columns)
  rows : response.field? "rows" = some (.array (result.table.rows.map .object))
  rowCount : response.field? "rowCount" = some (.integer result.table.rows.length)
  executionTime : response.field? "executionTimeMs" = some (.integer result.milliseconds)
  faultless : response.field? "error" = none

/-- Whether a response tells an error, with advice or without it. -/
structure Refuses (response : Http.Response) (status : Nat) (error : String)
    (suggestion : Option String) : Prop where
  status : response.status = status
  error : response.field? "error" = some (.string error)
  suggestion : response.field? "suggestion" = suggestion.map .string
  fruitless : response.field? "sql" = none

/--
Whether a response tells how the last round of a dialogue ended: with the query that was executed and
its result, or with the error of the assistant, the gateway or the database.
-/
def Round.Ends (response : Http.Response) (number : Nat) : Round → Prop
  | unanswered _ error => Refuses response 502 error.message none
  | tried request trial =>
    match trial.attempt with
    | .answered sql result => Presents response request.question sql result number
    | .rejected rejection =>
      Refuses response 400 rejection.message
        (some (Sql.suggestCorrection trial.text rejection.message))
    | .failed _ message =>
      Refuses response 500 message (some (Sql.suggestCorrection trial.text message))

theorem refuses_response (refusal : Refusal) :
    Refuses refusal.response refusal.status refusal.error refusal.suggestion := by
  obtain ⟨status, error, suggestion⟩ := refusal
  constructor
  · rfl
  all_goals cases suggestion <;> simp [field?_refusal, Json.optionalField]

theorem Round.ends_response (dialect : Sql.Dialect) (number : Nat) (round : Round) :
    round.Ends (round.response dialect number) number := by
  cases round with
  | unanswered request error => exact refuses_response _
  | tried request trial =>
      obtain ⟨prompt, text, attempt, entry⟩ := trial
      cases attempt with
      | answered sql result =>
          rw [Round.response]
          constructor
          · rfl
          all_goals simp [field?_answer, resultFields]
      | rejected rejection => exact refuses_response _
      | failed sql message => exact refuses_response _

/-- Of a round that was attempted, no response says that nothing was. -/
theorem Round.Ends.not_refuses {response : Http.Response} {number : Nat} {round : Round}
    (ends : round.Ends response number) (error : String) : ¬ Refuses response 500 error none := by
  intro refuses
  cases round with
  | unanswered request error =>
      have status := refuses.status.symm.trans (Refuses.status ends)
      cases status
  | tried request trial =>
      obtain ⟨prompt, text, attempt, entry⟩ := trial
      cases attempt with
      | answered sql result =>
          have status := refuses.status.symm.trans (Presents.status ends)
          cases status
      | rejected rejection =>
          have status := refuses.status.symm.trans (Refuses.status ends)
          cases status
      | failed sql message =>
          have advice := refuses.suggestion.symm.trans (Refuses.suggestion ends)
          cases advice

/--
A question that is not blank is answered in a dialogue with the assistant, for every schema.  The
assistant is called once in each round and not otherwise; the response is that of the last round,
with the number of rounds, and never what would be said if nothing was attempted.
-/
theorem step_of_question {server : Server} {session : Session} {request : Http.Request}
    {question schema : String} (asks : asked? request = some question) (nonblank : question ≠ "")
    (known : server.outside.schema session.calls.schemas = .ok schema) :
    ∃ done earlier final,
      (server.step session request).2 = session.after done ∧
      done.filterMap Deed.request? = (earlier ++ [final]).map Round.request ∧
      Dialogue server (Question.attemptLimit server.settings)
        (session.calls.after [.readSchema (.ok schema)]) ⟨question, schema, none⟩
        (earlier ++ [final]) ∧
      (server.step session request).1 =
        final.response server.settings.database.dialect (earlier.length + 1) ∧
      final.Ends (server.step session request).1 (earlier.length + 1) ∧
      ¬ Refuses (server.step session request).1 500 "No SQL was generated" none := by
  obtain ⟨response, done, stepped, answers⟩ :=
    Server.step_of_deals (@deals_asked server session.calls request question asks)
  obtain ⟨earlier, final, dialogue, rfl, dealt⟩ := answers.exists_dialogue nonblank known
  have ends := final.ends_response server.settings.database.dialect (earlier.length + 1)
  rw [stepped]
  refine ⟨done, earlier, final, rfl, ?_, dialogue, rfl, ends, ends.not_refuses _⟩
  rw [← filterMap_dealings Deed.request?_eq_none_of_isDealing, dealt]
  exact (List.filterMap_cons_none rfl).trans (filterMap_request?_deeds _)

/-! ## A dialogue of two rounds -/

/-- A service whose assistant first writes a query that is rejected, and then one that fails. -/
def wavering : Server where
  settings := .default
  outside := {
    schema := fun _ => .ok "CREATE TABLE sales (region VARCHAR)"
    generate := fun calls _ => pure (.ok (if calls = 0 then "DROP TABLE sales" else "SELECT 1"))
    execute := fun _ _ => .error "Out of memory"
    clock := fun _ => ⟨.epoch, 0⟩ }

/-- A request that asks a question. -/
def askingRegions : Http.Request :=
  ⟨"POST", "/api/ask", "", some "application/json", "\x7b\"question\":\" Regions? \"\x7d"⟩

theorem asked?_askingRegions : asked? askingRegions = some "Regions?" := by
  have carried : carried? .ask (Json.Decoder.record QuestionBody.shape) askingRegions
      = some ⟨" Regions? "⟩ :=
    carried?_eq_some_iff.2 ⟨by decide +kernel, rfl⟩
  rw [asked?, carried]
  decide +kernel

theorem step_of_question_wavering :
    ∃ done earlier final,
      (wavering.step (.start wavering) askingRegions).2 = (Session.start wavering).after done ∧
      done.filterMap Deed.request? = (earlier ++ [final]).map Round.request ∧
      Dialogue wavering 2 ⟨1, 0, 0⟩ ⟨"Regions?", "CREATE TABLE sales (region VARCHAR)", none⟩
        (earlier ++ [final]) ∧
      (wavering.step (.start wavering) askingRegions).1 =
        final.response .duckDb (earlier.length + 1) ∧
      final.Ends (wavering.step (.start wavering) askingRegions).1 (earlier.length + 1) ∧
      ¬ Refuses (wavering.step (.start wavering) askingRegions).1 500 "No SQL was generated" none :=
  step_of_question asked?_askingRegions (by decide) rfl

end Querent.Service

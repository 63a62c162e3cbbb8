import Querent.Proofs.Service.Answering

/-!
# Two ways to the database

A query can be posted, or written by the assistant in answer to a question.  If a question is
attempted once only, both ways answer alike, with one exception: when the execution fails, advice is
given on the text as it was written in the one case and on its canonical form in the other.  The two
differ exactly when one of them lacks a condition for a join and the other does not.
-/

namespace Querent

namespace Sql

/-! ## Advice -/

theorem intercalate_append_ne (separator last : String) {tips : List String}
    (proper : separator ≠ "") (some : tips ≠ []) :
    separator.intercalate (tips ++ [last]) ≠ separator.intercalate tips := by
  intro same
  have lengths := congrArg String.length same
  rw [String.intercalate_append_of_ne_nil some (List.cons_ne_nil last [])] at lengths
  simp only [String.length_append] at lengths
  have nonempty : separator.length ≠ 0 := by simpa using proper
  omega

/-- Advice on two queries that led to one error differs only by the tip for joins. -/
theorem suggestCorrection_eq_iff (first second error : String) :
    suggestCorrection first error = suggestCorrection second error ↔
      lacksJoinCondition first = lacksJoinCondition second := by
  have differ (joined other : String) (lacks : lacksJoinCondition joined = true)
      (states : lacksJoinCondition other = false) :
      suggestCorrection joined error ≠ suggestCorrection other error := by
    unfold suggestCorrection correctionTips queryTips
    simp only [lacks, states, if_true, Bool.false_eq_true, if_false, List.append_nil]
    intro same
    cases tips : errorTips error with
    | nil =>
        rw [tips] at same
        exact absurd same (by decide +kernel)
    | cons tip rest =>
        rw [tips] at same
        have longer := intercalate_append_ne ". " "Add an ON clause to your JOIN statement"
          (by decide) (List.cons_ne_nil tip rest)
        exact longer ((String.append_left_inj _).1 same)
  constructor
  · intro same
    cases firstly : lacksJoinCondition first with
    | true =>
        cases secondly : lacksJoinCondition second with
        | true => rfl
        | false => exact absurd same (differ _ _ firstly secondly)
    | false =>
        cases secondly : lacksJoinCondition second with
        | true => exact absurd same.symm (differ _ _ secondly firstly)
        | false => rfl
  · intro same
    unfold suggestCorrection correctionTips queryTips
    rw [same]

end Sql

namespace Service

/-- A dialogue of at most one round is that round. -/
theorem Dialogue.eq_singleton {server : Server} {calls : Calls} {request : SqlRequest}
    {earlier : List Round} {final : Round}
    (dialogue : Dialogue server 1 calls request (earlier ++ [final])) :
    earlier = [] ∧ final.request = request ∧ final.Genuine server calls := by
  have short := dialogue.length_le
  obtain rfl : earlier = [] := by
    cases earlier with
    | nil => rfl
    | cons first rest => simp at short
  exact ⟨rfl, dialogue.starts, dialogue.genuine 0 dialogue.length_pos⟩

/-- The fields of a response that tell how an attempt ended, advice aside. -/
def endingFields : List String :=
  ["error", "sql", "columns", "rows", "rowCount", "executionTimeMs"]

theorem status_answer (fields : Json.Fields) : (answer fields).status = 200 := rfl

theorem status_refusal (refusal : Refusal) : refusal.response.status = refusal.status := rfl

/-- The response after a round agrees with the response to its text as a posted query. -/
theorem Round.response_agrees (dialect : Sql.Dialect) (number : Nat) (request : SqlRequest)
    (trial : Trial) :
    ((Round.tried request trial).response dialect number).status =
        (trial.attempt.response trial.text).status ∧
      ∀ name ∈ endingFields, ((Round.tried request trial).response dialect number).field? name =
        (trial.attempt.response trial.text).field? name := by
  obtain ⟨prompt, text, attempt, entry⟩ := trial
  cases attempt with
  | answered sql result =>
      constructor
      · simp only [Round.response, Attempt.response, status_answer]
      · intro name member
        simp only [endingFields, List.mem_cons, List.not_mem_nil, or_false] at member
        simp only [Round.response, Attempt.response, field?_answer, resultFields]
        rcases member with rfl | rfl | rfl | rfl | rfl | rfl <;> simp
  | rejected rejection => exact ⟨rfl, fun name _ => rfl⟩
  | failed sql message =>
      constructor
      · simp only [Round.response, Attempt.response, status_refusal, Refusal.advised]
      · intro name member
        simp only [endingFields, List.mem_cons, List.not_mem_nil, or_false] at member
        simp only [Round.response, Attempt.response, field?_refusal, Refusal.advised]
        rcases member with rfl | rfl | rfl | rfl | rfl | rfl <;> simp [Json.optionalField]

/-- Advice agrees unless the execution failed and only one form of the text lacks a condition. -/
theorem Round.suggestion_agrees_iff (dialect : Sql.Dialect) (number : Nat) (request : SqlRequest)
    (trial : Trial) :
    ((Round.tried request trial).response dialect number).field? "suggestion" =
        (trial.attempt.response trial.text).field? "suggestion" ↔
      ∀ sql message, trial.attempt = .failed sql message →
        Sql.lacksJoinCondition trial.text = Sql.lacksJoinCondition sql := by
  obtain ⟨prompt, text, attempt, entry⟩ := trial
  cases attempt with
  | answered sql result =>
      simp [Round.response, Attempt.response, field?_answer, resultFields]
  | rejected rejection => simp [Round.response, Attempt.response]
  | failed sql message =>
      simp only [Round.response, Attempt.response, field?_refusal, Refusal.advised]
      simp only [Json.optionalField, Option.map_some, List.cons_append, Json.lookup_cons, if_true,
        Option.some.injEq, Json.string.injEq, Sql.suggestCorrection_eq_iff]
      simp

/-- A question that a request asks and a query that another posts, when the assistant writes it. -/
structure Twin (server : Server) (session : Session) (asking posting : Http.Request)
    (question schema : String) (body : QueryBody) : Prop where
  asks : asked? asking = some question
  nonblank : question ≠ ""
  known : server.outside.schema session.calls.schemas = .ok schema
  posts : postedBody? posting = some body
  writes : server.reply session.calls.requests ⟨question, schema, none⟩ = .ok body.query

/-- If a question is attempted once, a question and its twin are responded to after one trial. -/
theorem Twin.exists_trial {server : Server} {session : Session} {asking posting : Http.Request}
    {question schema : String} {body : QueryBody}
    (twin : Twin server session asking posting question schema body)
    (once : server.settings.assistant.maxAttempts = 1) :
    ∃ trial : Trial, trial.text = body.query ∧
      trial.attempt = .ofText server.settings.database.dialect
        (server.outside.execute session.calls.executions) body.query ∧
      (server.step session asking).1 =
        (Round.tried ⟨question, schema, none⟩ trial).response server.settings.database.dialect 1 ∧
      (server.step session posting).1 = trial.attempt.response trial.text := by
  obtain ⟨_, done, asked, answers⟩ :=
    Server.step_of_deals (@deals_asked server session.calls asking question twin.asks)
  obtain ⟨earlier, final, dialogue, rfl, _⟩ := answers.exists_dialogue twin.nonblank twin.known
  obtain ⟨_, done', posted, attempt, entry, genuine, _, rfl⟩ :=
    Server.step_of_deals (@deals_posted server session.calls posting body twin.posts)
  have decided : attempt = .ofText server.settings.database.dialect
      (server.outside.execute session.calls.executions) body.query := genuine.attempt_eq
  have limit : Question.attemptLimit server.settings = 1 := by
    rw [Question.attemptLimit, once]
    rfl
  rw [limit] at dialogue
  obtain ⟨rfl, starts, genuineFinal⟩ := dialogue.eq_singleton
  rw [asked, posted]
  cases final with
  | unanswered request error =>
      cases starts
      exact absurd (twin.writes.symm.trans genuineFinal) (by simp)
  | tried request trial =>
      cases starts
      obtain ⟨replied, _, genuineTrial⟩ := genuineFinal
      have sameText : trial.text = body.query := by
        simpa using replied.symm.trans twin.writes
      have sameAttempt : trial.attempt = attempt := by
        rw [genuineTrial.attempt_eq, decided, sameText]
        rfl
      refine ⟨trial, sameText, sameAttempt.trans decided, rfl, ?_⟩
      rw [sameAttempt, sameText]

/--
With one attempt for each question, a text that the assistant writes and the same text as a posted
query get the same status, the same error and the same result.  The advice is the same too, unless
the execution fails and the text and its canonical form differ in whether a join lacks its condition.
-/
theorem asked_agrees_with_posted {server : Server} {session : Session}
    {asking posting : Http.Request} {question schema : String} {body : QueryBody}
    (once : server.settings.assistant.maxAttempts = 1)
    (twin : Twin server session asking posting question schema body) :
    let asked := (server.step session asking).1
    let posted := (server.step session posting).1
    asked.status = posted.status ∧
      (∀ name ∈ endingFields, asked.field? name = posted.field? name) ∧
      (asked.field? "suggestion" = posted.field? "suggestion" ↔
        ∀ sql message,
          Attempt.ofText server.settings.database.dialect
              (server.outside.execute session.calls.executions) body.query = .failed sql message →
            Sql.lacksJoinCondition body.query = Sql.lacksJoinCondition sql) := by
  obtain ⟨trial, sameText, decided, asked, posted⟩ := twin.exists_trial once
  obtain ⟨status, fields⟩ := Round.response_agrees server.settings.database.dialect 1
    ⟨question, schema, none⟩ trial
  have advice := Round.suggestion_agrees_iff server.settings.database.dialect 1
    ⟨question, schema, none⟩ trial
  rw [← asked, ← posted] at status fields advice
  rw [sameText, decided] at advice
  exact ⟨status, fields, advice⟩

/-! ## A join whose condition is in a comment -/

/-- A join without a condition; a comment after it holds the word for one. -/
def commentedJoin : String :=
  "SELECT * FROM a JOIN b -- on"

/-- A service that attempts a question once, with a database that is out of memory. -/
def exhausted : Server where
  settings := { Settings.default with
    assistant := { Settings.default.assistant with maxAttempts := 1 } }
  outside := {
    schema := fun _ => .ok ""
    generate := fun _ _ => pure (.ok commentedJoin)
    execute := fun _ _ => .error "Out of memory"
    clock := fun _ => ⟨.epoch, 0⟩ }

/-- A request that posts the join. -/
def postingJoin : Http.Request :=
  ⟨"POST", "/api/query", "", some "application/json",
    "\x7b\"query\":\"SELECT * FROM a JOIN b -- on\"\x7d"⟩

theorem twin_exhausted :
    Twin exhausted (.start exhausted) askingRegions postingJoin "Regions?" ""
      ⟨commentedJoin, none⟩ where
  asks := asked?_askingRegions
  nonblank := by decide
  known := rfl
  posts := carried?_eq_some_iff.2 ⟨by decide +kernel, rfl⟩
  writes := rfl

theorem asked_agrees_with_posted_exhausted :
    let asked := (exhausted.step (.start exhausted) askingRegions).1
    let posted := (exhausted.step (.start exhausted) postingJoin).1
    asked.status = posted.status ∧
      (∀ name ∈ endingFields, asked.field? name = posted.field? name) ∧
      (asked.field? "suggestion" = posted.field? "suggestion" ↔
        ∀ sql message,
          Attempt.ofText .duckDb (fun _ => .error "Out of memory") commentedJoin =
              .failed sql message →
            Sql.lacksJoinCondition commentedJoin = Sql.lacksJoinCondition sql) :=
  @asked_agrees_with_posted exhausted _ askingRegions postingJoin "Regions?" ""
    ⟨commentedJoin, none⟩ rfl twin_exhausted

/-- The advice is not the same for every text. -/
theorem not_forall_suggestion_agrees :
    ¬ ∀ (server : Server) (session : Session) (asking posting : Http.Request)
      (question schema : String) (body : QueryBody),
      server.settings.assistant.maxAttempts = 1 →
        Twin server session asking posting question schema body →
        ((server.step session asking).1).field? "suggestion" =
          ((server.step session posting).1).field? "suggestion" := by
  intro agree
  obtain ⟨trial, sameText, decided, asked, posted⟩ := twin_exhausted.exists_trial rfl
  have same := agree exhausted _ askingRegions postingJoin _ _ _ rfl twin_exhausted
  rw [asked, posted, Round.suggestion_agrees_iff, sameText] at same
  have admitted : Sql.validate .duckDb commentedJoin = .ok "SELECT * FROM a JOIN b" := by
    decide +kernel
  have failed : trial.attempt = .failed "SELECT * FROM a JOIN b" "Out of memory" :=
    decided.trans (Attempt.ofText_of_ok admitted _)
  exact absurd (same _ _ failed) (by decide +kernel)

end Service

end Querent

import Querent.Proofs.Service.Trials

/-!
# Dialogues

A question is answered in a dialogue with the assistant, round by round.  In each round the assistant
is asked once, and what it writes is tried.  A round that does not settle the matter leaves feedback,
with which the next round starts.  The response to a question is decided by the last round alone.
-/

namespace Querent.Service

/-- A round of a dialogue. -/
inductive Round where
  /-- The assistant fails. -/
  | unanswered (request : SqlRequest) (error : AssistantError)
  /-- The text that the assistant writes is tried. -/
  | tried (request : SqlRequest) (trial : Trial)

namespace Round

/-- The request with which the assistant is asked. -/
def request : Round → SqlRequest
  | unanswered request _ => request
  | tried request _ => request

/-- What is dealt in a round. -/
def deeds : Round → List Deed
  | unanswered request error => [.generated request (.error error)]
  | tried request trial => .generated request (.ok trial.text) :: trial.deeds

/-- What a round leaves for the next one: nothing, if the assistant failed or the query was answered. -/
def feedback? : Round → Option Feedback
  | unanswered _ _ => none
  | tried _ trial =>
    match trial.attempt with
    | .answered _ _ => none
    | .rejected rejection =>
      some ⟨trial.text, rejection.message, Sql.suggestCorrection trial.text rejection.message⟩
    | .failed _ message => some ⟨trial.text, message, Sql.suggestCorrection trial.text message⟩

/-- The response after a last round with the given number. -/
def response (dialect : Sql.Dialect) (number : Nat) : Round → Http.Response
  | unanswered _ error => (Refusal.plain 502 error.message).response
  | tried request trial =>
    match trial.attempt with
    | .answered sql result =>
      answer (resultFields sql result ++
        [("question", .string request.question), ("explanation", .string (Sql.explain dialect sql)),
          ("attempts", .integer number), ("analysis", (Report.ofTable result.table).json)])
    | .rejected rejection => (Refusal.advised 400 trial.text rejection.message).response
    | .failed _ message => (Refusal.advised 500 trial.text message).response

/-- Whether a round is what the assistant, the gateway and the database make of its request. -/
def Genuine (server : Server) (calls : Calls) : Round → Prop
  | unanswered request error => server.reply calls.requests request = .error error
  | tried request trial =>
    server.reply calls.requests request = .ok trial.text ∧ trial.prompt = request.question ∧
      trial.Genuine server calls

end Round

/--
Whether rounds make up a dialogue that starts with a request and after so many calls, and that has a
limited number of rounds.
-/
structure Dialogue (server : Server) (limit : Nat) (calls : Calls) (request : SqlRequest)
    (rounds : List Round) : Prop where
  /-- There are rounds, and not too many. -/
  length_pos : 0 < rounds.length
  length_le : rounds.length ≤ limit
  /-- The first round starts with the request. -/
  starts : rounds[0].request = request
  /-- Every round is what comes of its request after the calls before it. -/
  genuine : ∀ (i : Nat) (inside : i < rounds.length),
    rounds[i].Genuine server (calls.after ((rounds.take i).flatMap Round.deeds))
  /-- Every round but the last leaves feedback, with which the next one starts. -/
  continues : ∀ (i : Nat) (inside : i + 1 < rounds.length),
    rounds[i].feedback?.isSome ∧
      rounds[i + 1].request = { request with feedback := rounds[i].feedback? }
  /-- The dialogue is over with a round that leaves no feedback, or when the limit is reached. -/
  ends : (rounds.getLast (List.ne_nil_of_length_pos length_pos)).feedback? = none ∨
    rounds.length = limit

namespace Dialogue

variable {server : Server} {limit : Nat} {calls : Calls} {request : SqlRequest}

/-- A dialogue that is over after one round. -/
theorem single {round : Round} (genuine : round.Genuine server calls)
    (starts : round.request = request) (settled : round.feedback? = none ∨ limit = 0) :
    Dialogue server (limit + 1) calls request [round] where
  length_pos := Nat.one_pos
  length_le := Nat.succ_le_succ (Nat.zero_le limit)
  starts := starts
  genuine := by
    intro i inside
    obtain rfl : i = 0 := Nat.lt_one_iff.1 inside
    exact genuine
  continues := by
    intro i inside
    exact absurd inside (by simp)
  ends := settled.imp_right fun none => by rw [none]; rfl

/-- A round that leaves feedback, and the dialogue that starts with the feedback. -/
theorem cons {round : Round} {feedback : Feedback} {rounds : List Round}
    (genuine : round.Genuine server calls) (starts : round.request = request)
    (left : round.feedback? = some feedback)
    (rest : Dialogue server limit (calls.after round.deeds)
      { request with feedback := some feedback } rounds) :
    Dialogue server (limit + 1) calls request (round :: rounds) where
  length_pos := Nat.succ_pos _
  length_le := Nat.succ_le_succ rest.length_le
  starts := starts
  genuine := by
    intro i inside
    cases i with
    | zero => exact genuine
    | succ i =>
        have later := rest.genuine i (Nat.lt_of_succ_lt_succ inside)
        rw [← Calls.after_append] at later
        exact later
  continues := by
    intro i inside
    cases i with
    | zero => exact ⟨by simp [left], by simpa [left] using rest.starts⟩
    | succ i => exact rest.continues i (Nat.lt_of_succ_lt_succ inside)
  ends := by
    rw [List.getLast_cons (List.ne_nil_of_length_pos rest.length_pos)]
    exact rest.ends.imp_right (congrArg Nat.succ)

end Dialogue

variable {server : Server} {calls : Calls}

/-! ## Rounds -/

/-- What follows from a round: a response, or a request with the feedback of the round. -/
def Follows (dialect : Sql.Dialect) (number : Nat) (round : Round) :
    Question.Outcome → Prop
  | .final response => round.feedback? = none ∧ response = round.response dialect number
  | .again request refusal =>
    ∃ feedback, round.feedback? = some feedback ∧
      request = { round.request with feedback := some feedback } ∧
      refusal.response = round.response dialect number

theorem deals_answered (question sql : String) (result : ResultSet) (number : Nat) :
    Deals server calls (Question.answered question sql result number) fun response dealt =>
      response = answer (resultFields sql result ++ [("question", .string question),
        ("explanation", .string (Sql.explain server.settings.database.dialect sql)),
        ("attempts", .integer number), ("analysis", (Report.ofTable result.table).json)]) ∧
      dealt = [] := by
  refine deals_dialect.bind ?_
  rintro _ _ ⟨rfl, rfl⟩
  refine (deals_logged _).bind ?_
  rintro explanation _ ⟨rfl, rfl⟩
  rw [Log.Logged.result, Sql.watchedExplanation_fst]
  exact .pure ⟨rfl, rfl⟩

theorem deals_retry (limit number : Nat) (request : SqlRequest) (text : String) (status : Nat)
    (message : String) :
    Deals server calls (Question.retry limit number request text status message) fun outcome dealt =>
      outcome = .again
          { request with feedback := some ⟨text, message, Sql.suggestCorrection text message⟩ }
          (.advised status text message) ∧
        dealt = [] :=
  (idle_note _ _).before fun _ => .pure ⟨rfl, rfl⟩

/-- An attempt to answer a question is a round. -/
theorem deals_question_attempt (limit number : Nat) (request : SqlRequest) :
    Deals server calls (Question.attempt limit number request) fun outcome dealt =>
      ∃ round : Round, round.request = request ∧ round.Genuine server calls ∧
        dealt = round.deeds ∧ Follows server.settings.database.dialect number round outcome := by
  refine idle_now.before fun started => ?_
  refine (deals_generate request).bind ?_
  rintro reply _ ⟨replied, rfl⟩
  cases reply with
  | error error =>
      refine (idle_note _ _).before fun _ => ?_
      exact .pure ⟨.unanswered request error, rfl, replied.symm, rfl, rfl, rfl⟩
  | ok text =>
      refine (idle_note _ _).before fun _ => ?_
      refine (deals_run request.question text started _ fun _ => .pure ()).bind ?_
      rintro attempt _ ⟨entry, tries, rfl⟩
      have genuine : (Round.tried request ⟨request.question, text, attempt, entry⟩).Genuine
          server calls := ⟨replied.symm, rfl, tries.attempt_eq, tries.truthful⟩
      cases attempt with
      | answered sql result =>
          refine (deals_answered request.question sql result number).map ?_
          rintro response _ ⟨rfl, rfl⟩
          exact ⟨_, rfl, genuine, by simp [Round.deeds], rfl, rfl⟩
      | rejected rejection =>
          refine (deals_retry limit number request text 400 rejection.message).mono ?_
          rintro outcome _ ⟨rfl, rfl⟩
          exact ⟨_, rfl, genuine, by simp [Round.deeds], _, rfl, rfl, rfl⟩
      | failed sql message =>
          refine (deals_retry limit number request text 500 message).mono ?_
          rintro outcome _ ⟨rfl, rfl⟩
          exact ⟨_, rfl, genuine, by simp [Round.deeds], _, rfl, rfl, rfl⟩

/-- Attempts to answer a question make up a dialogue, and its last round decides the response. -/
theorem deals_attempts (limit left number : Nat) (request : SqlRequest) (last : Refusal) :
    Deals server calls (Question.attempts limit (left + 1) number request last)
      fun response dealt => ∃ earlier final,
        Dialogue server (left + 1) calls request (earlier ++ [final]) ∧
        dealt = (earlier ++ [final]).flatMap Round.deeds ∧
        response = final.response server.settings.database.dialect (number + earlier.length) := by
  induction left generalizing calls number request last with
  | zero =>
      refine (deals_question_attempt limit number request).bind ?_
      rintro outcome _ ⟨round, starts, genuine, rfl, follows⟩
      cases outcome with
      | final response =>
          exact .pure ⟨[], round, .single genuine starts (.inr rfl), by simp, follows.2⟩
      | again next refusal =>
          obtain ⟨feedback, left, same, answers⟩ := follows
          exact .pure ⟨[], round, .single genuine starts (.inr rfl), by simp, answers⟩
  | succ left ih =>
      refine (deals_question_attempt limit number request).bind ?_
      rintro outcome _ ⟨round, starts, genuine, rfl, follows⟩
      cases outcome with
      | final response =>
          exact .pure ⟨[], round, .single genuine starts (.inl follows.1), by simp, follows.2⟩
      | again next refusal =>
          obtain ⟨feedback, left, rfl, answers⟩ := follows
          refine (ih (number + 1) _ refusal).mono ?_
          rintro response _ ⟨earlier, final, dialogue, rfl, same⟩
          rw [starts] at dialogue
          refine ⟨round :: earlier, final, dialogue.cons genuine starts left, by simp, ?_⟩
          rw [same, List.length_cons, Nat.add_assoc, Nat.add_comm 1]

end Querent.Service

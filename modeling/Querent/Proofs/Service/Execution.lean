import Querent.Proofs.Service.Dealings

/-!
# What is executed

The way of texts to the database.  A text is *submitted* when the assistant writes it in answer to a
question, or when a request posts it as a query.  The gateway judges every submitted text, and what
it lets through is executed in the canonical form, once, before anything else is submitted.  Nothing
else is ever executed: this is proved for every piece of work of the service, and by induction for
every list of requests.
-/

namespace Querent.Service

/-! ## Passages -/

/-- A text on its way from the assistant to the service, or from the service to the database. -/
inductive Passage where
  | reply (text : String)
  | execution (sql : String)
  deriving DecidableEq, Repr

/-- The text that the assistant wrote. -/
def Passage.reply? : Passage → Option String
  | reply text => some text
  | execution _ => none

/-- The text that the database received. -/
def Passage.execution? : Passage → Option String
  | reply _ => none
  | execution sql => some sql

/-- The text that passed with a deed, if one did. -/
def Deed.passage? : Deed → Option Passage
  | generated _ (.ok text) => some (.reply text)
  | executed sql _ => some (.execution sql)
  | _ => none

/-- The text that the assistant wrote. -/
def Deed.reply? : Deed → Option String
  | generated _ (.ok text) => some text
  | _ => none

/-- The texts that passed with some deeds, in their order. -/
def passages (done : List Deed) : List Passage :=
  done.filterMap Deed.passage?

@[simp]
theorem passages_nil : passages [] = [] := rfl

@[simp]
theorem passages_append (first second : List Deed) :
    passages (first ++ second) = passages first ++ passages second :=
  List.filterMap_append

@[simp]
theorem passages_reported (events : List Log.Event) : passages (events.map Deed.reported) = [] := by
  simp [passages, Deed.passage?]

theorem filterMap_executed? (done : List Deed) :
    done.filterMap Deed.executed? = (passages done).filterMap Passage.execution? := by
  rw [passages, List.filterMap_filterMap]
  congr 1
  funext deed
  cases deed with
  | generated request outcome => cases outcome <;> rfl
  | _ => rfl

theorem filterMap_reply? (done : List Deed) :
    done.filterMap Deed.reply? = (passages done).filterMap Passage.reply? := by
  rw [passages, List.filterMap_filterMap]
  congr 1
  funext deed
  cases deed with
  | generated request outcome => cases outcome <;> rfl
  | _ => rfl

/-- What the gateway makes of a submitted text: its canonical form, or nothing. -/
def admitted? (dialect : Sql.Dialect) (text : String) : Option String :=
  (Sql.validate dialect text).toOption

/-- The executions that a submitted text leads to, of which there is at most one. -/
def executions (dialect : Sql.Dialect) (text : String) : List Passage :=
  (admitted? dialect text).toList.map Passage.execution

/-- What passes when the assistant writes a text. -/
def exchange (dialect : Sql.Dialect) (text : String) : List Passage :=
  .reply text :: executions dialect text

theorem filterMap_reply?_executions (dialect : Sql.Dialect) (text : String) :
    (executions dialect text).filterMap Passage.reply? = [] := by
  cases found : admitted? dialect text <;> simp [executions, found, Passage.reply?]

theorem filterMap_execution?_executions (dialect : Sql.Dialect) (text : String) :
    (executions dialect text).filterMap Passage.execution? =
      (admitted? dialect text).toList := by
  cases found : admitted? dialect text <;> simp [executions, found, Passage.execution?]

theorem filterMap_reply?_exchanges (dialect : Sql.Dialect) (texts : List String) :
    (texts.flatMap (exchange dialect)).filterMap Passage.reply? = texts := by
  induction texts with
  | nil => rfl
  | cons text rest ih =>
      rw [List.flatMap_cons, List.filterMap_append, ih, exchange, List.filterMap_cons]
      simp [Passage.reply?, filterMap_reply?_executions]

theorem filterMap_execution?_exchanges (dialect : Sql.Dialect) (texts : List String) :
    (texts.flatMap (exchange dialect)).filterMap Passage.execution? =
      texts.filterMap (admitted? dialect) := by
  induction texts with
  | nil => rfl
  | cons text rest ih =>
      rw [List.flatMap_cons, List.filterMap_append, ih, exchange, List.filterMap_cons]
      cases found : admitted? dialect text <;>
        simp [Passage.execution?, filterMap_execution?_executions, found]

/-! ## Work that lets nothing pass -/

variable {server : Server}

/-- Whether work lets no text pass. -/
def Quiet {α : Type} (server : Server) (work : Work α) : Prop :=
  Does server work fun _ done => passages done = []

namespace Quiet

variable {α β : Type} {work : Work α}

theorem pure (outcome : α) : Quiet server (Pure.pure outcome) :=
  Does.pure rfl

theorem bind {next : α → Work β} (first : Quiet server work)
    (rest : ∀ outcome, Quiet server (next outcome)) : Quiet server (work >>= next) :=
  Does.bind first fun outcome done silent =>
    (rest outcome).mono fun _ later silentLater => by
      rw [passages_append, silent, silentLater, List.append_nil]

/-- Quiet work before other work changes nothing about what passes. -/
theorem before {next : α → Work β} {expected : List Passage} (first : Quiet server work)
    (rest : ∀ outcome, Does server (next outcome) fun _ done => passages done = expected) :
    Does server (work >>= next) fun _ done => passages done = expected :=
  Does.bind first fun outcome done silent =>
    (rest outcome).mono fun _ later passed => by
      rw [passages_append, silent, List.nil_append, passed]

/-- Quiet work after other work changes nothing about what passes. -/
theorem following {done : List Deed} {expected : List Passage} (quiet : Quiet server work)
    (passed : passages done = expected) :
    Does server work fun _ later => passages (done ++ later) = expected :=
  quiet.mono fun _ later silent => by rw [passages_append, passed, silent, List.append_nil]

end Quiet

/-- Work that deals nothing lets nothing pass. -/
theorem Idle.quiet {α : Type} {work : Work α} (idle : Idle server work) : Quiet server work := by
  refine idle.mono fun _ done nothing => ?_
  have unseen (deed : Deed) (other : deed.isDealing = false) : deed.passage? = none := by
    cases deed <;> first | rfl | cases other
  rw [passages, ← filterMap_dealings unseen, nothing, List.filterMap_nil]

theorem quiet_schema : Quiet server Work.schema :=
  does_schema.mono fun _ _ reading => by rw [reading]; rfl

theorem quiet_record (entry : HistoryEntry) : Quiet server (Work.record entry) :=
  (does_record entry).mono fun _ _ recording => by rw [recording]; rfl

theorem quiet_recordAnswer (prompt sql : String) (result : ResultSet) :
    Quiet server (Attempt.recordAnswer prompt sql result) :=
  idle_now.quiet.bind fun _ => quiet_record _

theorem quiet_recordFailure (prompt sql : String) (status : AttemptStatus) (message : String)
    (started : ClockReading) :
    Quiet server (Attempt.recordFailure prompt sql status message started) :=
  idle_now.quiet.bind fun _ => quiet_record _

/-! ## Attempts and questions -/

theorem passages_execute (sql : String) :
    Does server (Work.execute sql) fun _ done => passages done = [.execution sql] :=
  (does_execute sql).mono fun _ _ execution => by rw [execution]; rfl

theorem passages_generate (request : SqlRequest) :
    Does server (Work.generate request) fun outcome done =>
      passages done = (outcome.toOption.toList).map Passage.reply := by
  refine (does_generate request).mono ?_
  rintro outcome _ ⟨events, rfl⟩
  rw [passages_append, passages_reported, List.nil_append]
  cases outcome <;> rfl

theorem passages_attempt_execute (prompt sql : String) (started : ClockReading) :
    Does server (Attempt.execute prompt sql started)
      fun _ done => passages done = [.execution sql] := by
  refine .bind (passages_execute sql) fun outcome done executed => ?_
  cases outcome with
  | ok result =>
      have quiet := (@quiet_recordAnswer server prompt sql result).bind fun _ =>
        .pure (Attempt.answered sql result)
      exact quiet.following executed
  | error message =>
      have quiet := (@quiet_recordFailure server prompt sql .error message started).bind fun _ =>
        .pure (Attempt.failed sql message)
      exact quiet.following executed

/-- An attempt executes the canonical form of its text if the gateway admits it. -/
theorem passages_run (prompt text : String) (started : ClockReading)
    (announce : String → Work Unit) (quiet : ∀ sql, Quiet server (announce sql)) :
    Does server (Attempt.run prompt text started announce) fun _ done =>
      passages done = executions server.settings.database.dialect text := by
  refine .bind does_dialect ?_
  rintro _ _ ⟨rfl, rfl⟩
  refine .bind (does_logged _) ?_
  rintro verdict _ ⟨sameVerdict, rfl⟩
  rw [Log.Logged.result, Sql.watchedVerdict_fst] at sameVerdict
  simp only [List.nil_append, passages_append, passages_reported, sameVerdict]
  unfold executions admitted?
  cases Sql.validate server.settings.database.dialect text with
  | ok sql => exact (quiet sql).before fun _ => passages_attempt_execute prompt sql started
  | error rejection =>
      exact (quiet_recordFailure prompt text _ _ started).bind fun _ => .pure _

theorem quiet_answered (question sql : String) (result : ResultSet) (number : Nat) :
    Quiet server (Question.answered question sql result number) :=
  (idle_dialect.bind fun _ => (idle_logged _).bind fun _ => .pure _).quiet

theorem quiet_retry (limit number : Nat) (request : SqlRequest) (text : String) (status : Nat)
    (message : String) : Quiet server (Question.retry limit number request text status message) :=
  ((idle_note _ _).bind fun _ => .pure _).quiet

/-- An attempt to answer a question is an exchange with the assistant, if it writes anything. -/
theorem passages_question_attempt (limit number : Nat) (request : SqlRequest) :
    Does server (Question.attempt limit number request) fun _ done =>
      ∃ reply : Option String,
        passages done = reply.toList.flatMap (exchange server.settings.database.dialect) := by
  refine .bind does_now ?_
  rintro started _ rfl
  refine .bind (passages_generate request) fun outcome done replied => ?_
  cases outcome with
  | error error =>
      have quiet := (@idle_note server .error ("LLM error: " ++ error.message)).bind fun _ =>
        .pure (Question.Outcome.final (Refusal.plain 502 error.message).response)
      refine quiet.quiet.mono fun _ later silent => ⟨none, ?_⟩
      simp only [passages_append, replied, silent]
      rfl
  | ok text =>
      have answered : passages ([.readClock] ++ done) = [.reply text] := by
        rw [passages_append, replied]
        rfl
      refine .bind (idle_note _ _).quiet fun _ noted silent => ?_
      refine .bind (passages_run _ text started _ fun _ => .pure ()) fun ending tried passed => ?_
      have exchanged : passages ([.readClock] ++ (done ++ (noted ++ tried))) =
          (some text).toList.flatMap (exchange server.settings.database.dialect) := by
        rw [← List.append_assoc, passages_append, answered, passages_append, silent, passed]
        simp [exchange]
      have concluded {work : Work Question.Outcome} (quiet : Quiet server work) :
          Does server work fun _ later => ∃ reply : Option String,
            passages ([.readClock] ++ (done ++ (noted ++ (tried ++ later)))) =
              reply.toList.flatMap (exchange server.settings.database.dialect) :=
        (quiet.following exchanged).mono fun _ later same =>
          ⟨some text, by simpa only [List.append_assoc] using same⟩
      cases ending with
      | answered sql result =>
          exact concluded ((quiet_answered _ sql result number).map fun _ _ silent => silent)
      | rejected rejection => exact concluded (quiet_retry _ _ _ _ _ _)
      | failed sql message => exact concluded (quiet_retry _ _ _ _ _ _)

/-- All attempts to answer a question are exchanges with the assistant, one after another. -/
theorem passages_attempts (limit left number : Nat) (request : SqlRequest) (last : Refusal) :
    Does server (Question.attempts limit left number request last) fun _ done =>
      ∃ replies : List String,
        passages done = replies.flatMap (exchange server.settings.database.dialect) := by
  induction left generalizing number request last with
  | zero => exact .pure ⟨[], rfl⟩
  | succ left ih =>
      refine .bind (passages_question_attempt limit number request) ?_
      rintro outcome done ⟨reply, passed⟩
      cases outcome with
      | final response => exact .pure ⟨reply.toList, by rw [List.append_nil, passed]⟩
      | again next refusal =>
          refine (ih (number + 1) next refusal).mono ?_
          rintro _ later ⟨replies, passedLater⟩
          exact ⟨reply.toList ++ replies, by
            rw [passages_append, passed, passedLater, List.flatMap_append]⟩

theorem passages_question (text : String) :
    Does server (Question.respond text) fun _ done =>
      ∃ replies : List String,
        passages done = replies.flatMap (exchange server.settings.database.dialect) := by
  unfold Question.respond
  simp only
  split
  · exact .pure ⟨[], rfl⟩
  · refine .bind (idle_note _ _).quiet fun _ _ silent => ?_
    refine .bind quiet_schema fun outcome _ silentSchema => ?_
    cases outcome with
    | error error =>
        refine .bind (idle_note _ _).quiet fun _ _ silentNote => ?_
        exact .pure ⟨[], by simp [silent, silentSchema, silentNote]⟩
    | ok schema =>
        refine .bind idle_settings.quiet fun settings _ silentSettings => ?_
        refine (passages_attempts _ _ _ _ _).mono ?_
        rintro _ later ⟨replies, passed⟩
        exact ⟨replies, by simp [silent, silentSchema, silentSettings, passed]⟩

/-! ## Requests -/

/-- The endpoint that a request reaches, if it reaches one. -/
def reached? (request : Http.Request) : Option Endpoint :=
  if request.method == "OPTIONS" then none
  else (Endpoint.ofPath? request.path).filter (·.accepts request.method)

/-- The query that a request posts, if its body holds one. -/
def posted? (request : Http.Request) : Option String :=
  ((decodeBody (Json.Decoder.record QueryBody.shape) request).toOption).map QueryBody.query

/--
The texts that are submitted to the gateway for execution in responding to a request with some
deeds: what the assistant wrote, or the posted query, and nothing at any other endpoint.
-/
def submitted (request : Http.Request) (done : List Deed) : List String :=
  match reached? request with
  | some .ask => done.filterMap Deed.reply?
  | some .query => (posted? request).toList
  | _ => []

/-- What passes in responding to a request with some deeds. -/
def expectedPassages (dialect : Sql.Dialect) (request : Http.Request) (done : List Deed) :
    List Passage :=
  match reached? request with
  | some .ask => (done.filterMap Deed.reply?).flatMap (exchange dialect)
  | some .query => (posted? request).toList.flatMap (executions dialect)
  | _ => []

/-- Whatever passes as expected, exactly the admitted among the submitted texts are executed. -/
theorem filterMap_executed?_of_expected {dialect : Sql.Dialect} {request : Http.Request}
    {done : List Deed} (expected : passages done = expectedPassages dialect request done) :
    done.filterMap Deed.executed? = (submitted request done).filterMap (admitted? dialect) := by
  rw [filterMap_executed?, expected]
  unfold expectedPassages submitted
  split
  · exact filterMap_execution?_exchanges dialect _
  · cases posted? request with
    | none => rfl
    | some text =>
        cases found : admitted? dialect text <;>
          simp [filterMap_execution?_executions, found]
  · rfl

theorem passages_respondQuery (body : QueryBody) :
    Does server (respondQuery body) fun _ done =>
      passages done = executions server.settings.database.dialect body.query := by
  refine idle_now.quiet.before fun started => ?_
  refine .bind (passages_run _ body.query started _ fun sql => (idle_note _ _).quiet)
    fun ending done passed => ?_
  cases ending <;> exact .pure (by rw [List.append_nil, passed])

/-- Every endpoint but two lets nothing pass. -/
theorem quiet_respond {endpoint : Endpoint} (request : Http.Request) (notAsk : endpoint ≠ .ask)
    (notQuery : endpoint ≠ .query) : Quiet server (endpoint.respond request) := by
  by_cases isSchema : endpoint = .schema
  · subst isSchema
    refine quiet_schema.bind fun outcome => ?_
    cases outcome with
    | ok text => exact .pure _
    | error error => exact ((idle_note _ _).bind fun _ => .pure _).quiet
  · exact (idle_endpoint request notAsk notQuery isSchema).quiet

theorem expectedPassages_congr {first second : List Deed} (dialect : Sql.Dialect)
    (request : Http.Request) (same : passages first = passages second) :
    expectedPassages dialect request first = expectedPassages dialect request second := by
  unfold expectedPassages
  rw [filterMap_reply?, filterMap_reply?, same]

/-- What an endpoint lets pass in responding to a request that reaches it. -/
theorem passages_respond_endpoint (request : Http.Request) (endpoint : Endpoint)
    (reached : reached? request = some endpoint) :
    Does server (endpoint.respond request) fun _ done =>
      passages done = expectedPassages server.settings.database.dialect request done := by
  unfold expectedPassages
  simp only [reached]
  by_cases isAsk : endpoint = .ask
  · subst isAsk
    have asked : Does server (Endpoint.ask.respond request) fun _ done =>
        ∃ replies : List String,
          passages done = replies.flatMap (exchange server.settings.database.dialect) :=
      .responding (fun body _ => passages_question body.question) fun _ _ => ⟨[], rfl⟩
    refine asked.mono ?_
    rintro _ done ⟨replies, passed⟩
    rw [filterMap_reply?, passed, filterMap_reply?_exchanges]
  · by_cases isQuery : endpoint = .query
    · subst isQuery
      unfold posted?
      refine Does.responding (fun body decoded => ?_) fun response refused => ?_
      · refine (passages_respondQuery body).mono fun _ _ passed => ?_
        simp [decoded, passed, Except.toOption]
      · simp [refused, Except.toOption]
    · refine (quiet_respond request isAsk isQuery).mono fun _ done silent => ?_
      rw [silent]
      cases endpoint <;> first | rfl | contradiction

/-- What passes in responding to a request that is routed, which an `OPTIONS` request is not. -/
theorem passages_route (request : Http.Request) (routed : ¬ request.method == "OPTIONS") :
    Does server (route request) fun _ done =>
      passages done = expectedPassages server.settings.database.dialect request done := by
  have unreached (nowhere : reached? request = none) (response : Http.Response) :
      Does server (pure response : Work Http.Response) fun _ done =>
        passages done = expectedPassages server.settings.database.dialect request done :=
    .pure (by rw [expectedPassages, nowhere]; rfl)
  unfold route
  split
  next unknown =>
    exact unreached (by simp [reached?, unknown]) _
  next endpoint known =>
    split
    next accepted =>
      have reached : reached? request = some endpoint := by
        simp [reached?, routed, known, Option.filter, accepted]
      exact (passages_respond_endpoint request endpoint reached).map fun _ _ passed => passed
    next refused =>
      exact unreached (by simp [reached?, known, Option.filter, refused]) _

/-- Every text that passes in responding to a request is expected there. -/
theorem passages_respond (request : Http.Request) :
    Does server (respond request) fun _ done =>
      passages done = expectedPassages server.settings.database.dialect request done := by
  unfold respond
  split
  next granted =>
    exact .pure (by simp [expectedPassages, reached?, granted])
  next routed =>
    refine .bind idle_now.quiet fun started before silent => ?_
    refine .bind (passages_route request routed) fun response done passed => ?_
    refine .bind ((idle_reportFailure _ _).quiet) fun _ after silentAfter => ?_
    refine .pure ?_
    have same : passages (before ++ (done ++ (after ++ []))) = passages done := by
      simp [silent, silentAfter]
    rw [expectedPassages_congr _ _ same, same, passed]

/-! ## Runs -/

namespace Server

/-- The deeds of each step of a run, with the request to which the step responds. -/
def steps (server : Server) : Session → List Http.Request → List (Http.Request × List Deed)
  | _, [] => []
  | session, request :: rest =>
    let next := (server.step session request).2
    (request, next.deeds.drop session.deeds.length) :: server.steps next rest

/-- The session after a run. -/
def ending (server : Server) (session : Session) (requests : List Http.Request) : Session :=
  (server.run session requests).getLast?.elim session Prod.snd

theorem ending_cons (server : Server) (session : Session) (request : Http.Request)
    (rest : List Http.Request) :
    server.ending session (request :: rest) =
      server.ending (server.step session request).2 rest := by
  unfold ending
  rw [run]
  cases later : server.run (server.step session request).2 rest with
  | nil => simp
  | cons result results => simp [List.getLast?_eq_some_getLast]

/-- A step adds its deeds to the session, and every text that passes in it is expected there. -/
theorem step_spec (server : Server) (session : Session) (request : Http.Request) :
    ∃ done, (server.step session request).2 = session.after done ∧
      passages done = expectedPassages server.settings.database.dialect request done := by
  obtain ⟨response, done, ran, expected⟩ := @passages_respond server request session
  exact ⟨done, by rw [step, ran], expected⟩

/-- In every step of a run, every text that passes is expected there. -/
theorem passages_steps (server : Server) (session : Session) (requests : List Http.Request) :
    ∀ step ∈ server.steps session requests,
      passages step.2 = expectedPassages server.settings.database.dialect step.1 step.2 := by
  induction requests generalizing session with
  | nil => simp [steps]
  | cons request rest ih =>
      obtain ⟨done, after, expected⟩ := server.step_spec session request
      rw [steps, List.forall_mem_cons]
      refine ⟨?_, ih _⟩
      rw [after, Session.deeds_after, List.drop_left]
      exact expected

/-- A run does what its steps do, one after another. -/
theorem deeds_ending (server : Server) (session : Session) (requests : List Http.Request) :
    (server.ending session requests).deeds =
      session.deeds ++ (server.steps session requests).flatMap Prod.snd := by
  induction requests generalizing session with
  | nil => simp [ending, run, steps]
  | cons request rest ih =>
      obtain ⟨done, after, -⟩ := server.step_spec session request
      rw [ending_cons, ih, steps, List.flatMap_cons, after, Session.deeds_after, List.drop_left,
        List.append_assoc]

theorem requests_steps (server : Server) (session : Session) (requests : List Http.Request) :
    (server.steps session requests).map Prod.fst = requests := by
  induction requests generalizing session with
  | nil => rfl
  | cons request rest ih => rw [steps, List.map_cons, ih]

/--
The executions of a run, from the start of a session and for whatever the assistant and the database
answer, are the canonical forms of the submitted texts that the gateway admits, each executed once
and in the order of submission; and within every step, a canonical form is executed before the
assistant writes the next text.
-/
theorem executed_eq_admitted (server : Server) (requests : List Http.Request) :
    (server.ending (.start server) requests).deeds.filterMap Deed.executed? =
        (server.steps (.start server) requests).flatMap (fun step =>
          (submitted step.1 step.2).filterMap (admitted? server.settings.database.dialect)) ∧
      (server.ending (.start server) requests).deeds =
        (server.steps (.start server) requests).flatMap Prod.snd ∧
      (server.steps (.start server) requests).map Prod.fst = requests ∧
      ∀ step ∈ server.steps (.start server) requests,
        passages step.2 =
          expectedPassages server.settings.database.dialect step.1 step.2 := by
  have deeds : (server.ending (.start server) requests).deeds =
      (server.steps (.start server) requests).flatMap Prod.snd :=
    server.deeds_ending (.start server) requests
  have expected := server.passages_steps (.start server) requests
  refine ⟨?_, deeds, server.requests_steps _ _, expected⟩
  rw [deeds, List.filterMap_flatMap]
  exact List.flatMap_congr fun step member =>
    filterMap_executed?_of_expected (expected step member)

end Server

end Querent.Service

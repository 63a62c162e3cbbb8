import Querent.Proofs.Service.Dealings

/-!
# Alike sessions

Sessions are alike if they show the same history and the same numbers of calls; what else was done in
them, looks at the clock and reports, may differ.  `Mirrors server clock work` says of a piece of work
that it does in alike sessions the same, and yields the same, whatever else lies behind them, if the
clock shows it the same.  There is a rule for each way to put work together, so that this is proved
along the definitions for everything that the service does.
-/

namespace Querent.Service

/-- A server with another clock. -/
def Server.withClock (server : Server) (clock : Nat → ClockReading) : Server :=
  { server with outside := { server.outside with clock := clock } }

/-- Whether sessions show the same history and the same numbers of calls. -/
structure Session.Alike (s t : Session) : Prop where
  history : s.history = t.history
  calls : s.calls = t.calls

theorem Session.Alike.refl (s : Session) : s.Alike s :=
  ⟨rfl, rfl⟩

theorem Session.Alike.symm {s t : Session} (alike : s.Alike t) : t.Alike s :=
  ⟨alike.history.symm, alike.calls.symm⟩

theorem Session.Alike.trans {r s t : Session} (first : r.Alike s) (second : s.Alike t) : r.Alike t :=
  ⟨first.history.trans second.history, first.calls.trans second.calls⟩

/-- The same deeds leave alike sessions alike. -/
theorem Session.Alike.after {s t : Session} (alike : s.Alike t) (done : List Deed) :
    (s.after done).Alike (t.after done) where
  history := by rw [Session.after, Session.after, alike.history]
  calls := by rw [Session.calls_after, Session.calls_after, alike.calls]

/-- Deeds among which nothing is dealt leave a session as it looks. -/
theorem Session.Alike.after_right {s t : Session} (alike : s.Alike t) {done : List Deed}
    (nothing : dealings done = []) : s.Alike (t.after done) where
  history := by
    have unseen (deed : Deed) (other : deed.isDealing = false) : deed.historyEntry = none := by
      cases deed <;> first | rfl | cases other
    rw [Session.after, ← filterMap_dealings unseen, nothing]
    exact alike.history
  calls := by rw [Session.calls_after, nothing, Calls.after_nil, alike.calls]

/-- How often the clock was looked at. -/
def Session.looks (session : Session) : Nat :=
  session.deeds.countP Deed.isClock

theorem Session.looks_after (session : Session) (done : List Deed) :
    (session.after done).looks = session.looks + done.countP Deed.isClock := by
  rw [Session.looks, Session.deeds_after, List.countP_append, Session.looks]

/-- Whether a clock shows in a session, the next so many times, what a server's own shows in another. -/
def ShowsAlike (server : Server) (clock : Nat → ClockReading) (s t : Session) (looks : Nat) : Prop :=
  ∀ k < looks, clock (t.looks + k) = server.outside.clock (s.looks + k)

/--
Whether work comes to the same in all alike sessions: with a server and with the same server with
another clock it has the same outcome and does the same, if the clocks show the same for as often as
the work looks at them.
-/
def Mirrors {α : Type} (server : Server) (clock : Nat → ClockReading) (work : Work α) : Prop :=
  ∀ s t : Session, s.Alike t → ∃ outcome done,
    (work.run server).run s = (outcome, s.after done) ∧
      (ShowsAlike server clock s t (done.countP Deed.isClock) →
        (work.run (server.withClock clock)).run t = (outcome, t.after done))

namespace Mirrors

variable {α β : Type} {server : Server} {clock : Nat → ClockReading} {work : Work α}

theorem pure (outcome : α) : Mirrors server clock (Pure.pure outcome) := by
  intro s t _
  exact ⟨outcome, [], by rw [s.after_nil]; rfl, fun _ => by rw [t.after_nil]; rfl⟩

theorem bind {next : α → Work β} (first : Mirrors server clock work)
    (rest : ∀ outcome, Mirrors server clock (next outcome)) :
    Mirrors server clock (work >>= next) := by
  intro s t alike
  obtain ⟨outcome, done, ran, mirrored⟩ := first s t alike
  obtain ⟨result, later, ranLater, mirroredLater⟩ := rest outcome _ _ (alike.after done)
  refine ⟨result, done ++ later, ?_, fun shown => ?_⟩
  · rw [Session.after_append]
    change (((next ((work.run server).run s).1).run server).run ((work.run server).run s).2) = _
    rw [ran]
    exact ranLater
  · rw [List.countP_append] at shown
    rw [Session.after_append]
    change (((next ((work.run (server.withClock clock)).run t).1).run (server.withClock clock)).run
      ((work.run (server.withClock clock)).run t).2) = _
    rw [mirrored fun k early => shown k (Nat.lt_add_right _ early)]
    refine mirroredLater fun k early => ?_
    rw [Session.looks_after, Session.looks_after, Nat.add_assoc, Nat.add_assoc]
    exact shown _ (Nat.add_lt_add_left early _)

theorem map {f : α → β} (mirrors : Mirrors server clock work) :
    Mirrors server clock (f <$> work) :=
  mirrors.bind fun outcome => .pure (f outcome)

/-- Work that starts with a look at the server, in which the clock is not looked at directly. -/
theorem read {next : Server → Work α} (mirrors : Mirrors server clock (next server))
    (same : next (server.withClock clock) = next server) :
    Mirrors server clock (MonadReader.read >>= next) := by
  intro s t alike
  obtain ⟨outcome, done, ran, mirrored⟩ := mirrors s t alike
  refine ⟨outcome, done, ran, fun shown => ?_⟩
  change ((next (server.withClock clock)).run (server.withClock clock)).run t = _
  rw [same]
  exact mirrored shown

/-- Work that starts with a look at the history. -/
theorem history (next : History → Work α) (mirrors : ∀ history, Mirrors server clock (next history)) :
    Mirrors server clock (get >>= fun session => next session.history) := by
  intro s t alike
  obtain ⟨outcome, done, ran, mirrored⟩ := mirrors s.history s t alike
  refine ⟨outcome, done, ran, fun shown => ?_⟩
  change ((next t.history).run (server.withClock clock)).run t = _
  rw [← alike.history]
  exact mirrored shown

/-- Work that starts by counting calls. -/
theorem count {kind : Deed → Bool} {next : Nat → Work α} (counted : Calls → Nat)
    (counts : ∀ session : Session, session.deeds.countP kind = counted session.calls)
    (mirrors : ∀ calls, Mirrors server clock (next calls)) :
    Mirrors server clock (Work.count kind >>= next) := by
  intro s t alike
  obtain ⟨outcome, done, ran, mirrored⟩ := mirrors (s.deeds.countP kind) s t alike
  refine ⟨outcome, done, ran, fun shown => ?_⟩
  change ((next (t.deeds.countP kind)).run (server.withClock clock)).run t = _
  rw [counts, ← alike.calls, ← counts]
  exact mirrored shown

/-- Responding to what a request carries. -/
theorem responding {content : Except Http.Response α} {respond : α → Work Http.Response}
    (accepted : ∀ body, Mirrors server clock (respond body)) :
    Mirrors server clock (Service.responding content respond) := by
  cases content with
  | ok body => exact accepted body
  | error response => exact .pure response

end Mirrors

/-! ## The elements of work -/

variable {server : Server} {clock : Nat → ClockReading}

theorem mirrors_settings : Mirrors server clock Work.settings :=
  .read (.pure _) rfl

theorem mirrors_dialect : Mirrors server clock Work.dialect :=
  mirrors_settings.bind fun _ => .pure _

/-- A deed that is neither a record nor a look at the clock. -/
theorem mirrors_did {deed : Deed} (unrecorded : deed.historyEntry = none) :
    Mirrors server clock (Work.did deed) := by
  intro s t _
  have ran (session : Session) (server : Server) :
      ((Work.did deed).run server).run session = ((), session.after [deed]) := by
    simp only [Session.after, List.filterMap_cons, unrecorded, List.filterMap_nil, List.foldl_nil]
    rfl
  exact ⟨(), [deed], ran s server, fun _ => ran t _⟩

theorem mirrors_reportAll (events : List Log.Event) :
    Mirrors server clock (events.forM fun event => Work.did (.reported event)) := by
  induction events with
  | nil => exact .pure _
  | cons event rest ih => exact (mirrors_did rfl).bind fun _ => ih

theorem mirrors_logged {α : Type} (work : Log.Logged α) : Mirrors server clock (Work.logged work) :=
  (mirrors_reportAll work.result.2).bind fun _ => .pure _

theorem mirrors_note (level : Log.Level) (message : String) :
    Mirrors server clock (Work.note level message) :=
  mirrors_did rfl

theorem mirrors_record (entry : HistoryEntry) : Mirrors server clock (Work.record entry) :=
  fun _ _ _ => ⟨(), [.recorded entry], rfl, fun _ => rfl⟩

/-- The clock is looked at once, and shows the same if it should. -/
theorem mirrors_now : Mirrors server clock Work.now := by
  intro s t _
  refine ⟨server.outside.clock s.looks, [.readClock], rfl, fun shown => ?_⟩
  have same : clock t.looks = server.outside.clock s.looks := shown 0 Nat.one_pos
  rw [← same]
  rfl

theorem mirrors_schema : Mirrors server clock Work.schema :=
  .read (.count Calls.schemas (fun _ => rfl) fun _ => (mirrors_did rfl).bind fun _ => .pure _) rfl

theorem mirrors_generate (request : SqlRequest) : Mirrors server clock (Work.generate request) :=
  .count Calls.requests (fun _ => rfl) fun _ =>
    .read ((mirrors_logged _).bind fun _ => (mirrors_did rfl).bind fun _ => .pure _) rfl

theorem mirrors_execute (sql : String) : Mirrors server clock (Work.execute sql) :=
  .count Calls.executions (fun _ => rfl) fun _ =>
    .read ((mirrors_did rfl).bind fun _ => .pure _) rfl

/-! ## Attempts and questions -/

theorem mirrors_recordAnswer (prompt sql : String) (result : ResultSet) :
    Mirrors server clock (Attempt.recordAnswer prompt sql result) :=
  mirrors_now.bind fun _ => mirrors_record _

theorem mirrors_recordFailure (prompt sql : String) (status : AttemptStatus) (message : String)
    (started : ClockReading) :
    Mirrors server clock (Attempt.recordFailure prompt sql status message started) :=
  mirrors_now.bind fun _ => mirrors_record _

theorem mirrors_attempt_execute (prompt sql : String) (started : ClockReading) :
    Mirrors server clock (Attempt.execute prompt sql started) := by
  refine (mirrors_execute sql).bind fun outcome => ?_
  cases outcome with
  | ok result => exact (mirrors_recordAnswer prompt sql result).bind fun _ => .pure _
  | error message => exact (mirrors_recordFailure prompt sql _ message started).bind fun _ => .pure _

theorem mirrors_run (prompt text : String) (started : ClockReading) (announce : String → Work Unit)
    (announces : ∀ sql, Mirrors server clock (announce sql)) :
    Mirrors server clock (Attempt.run prompt text started announce) := by
  refine mirrors_dialect.bind fun dialect => (mirrors_logged _).bind fun verdict => ?_
  cases verdict with
  | ok sql => exact (announces sql).bind fun _ => mirrors_attempt_execute prompt sql started
  | error rejection => exact (mirrors_recordFailure prompt text _ _ started).bind fun _ => .pure _

theorem mirrors_answered (question sql : String) (result : ResultSet) (number : Nat) :
    Mirrors server clock (Question.answered question sql result number) :=
  mirrors_dialect.bind fun _ => (mirrors_logged _).bind fun _ => .pure _

theorem mirrors_retry (limit number : Nat) (request : SqlRequest) (text : String) (status : Nat)
    (message : String) :
    Mirrors server clock (Question.retry limit number request text status message) :=
  (mirrors_note _ _).bind fun _ => .pure _

theorem mirrors_question_attempt (limit number : Nat) (request : SqlRequest) :
    Mirrors server clock (Question.attempt limit number request) := by
  refine mirrors_now.bind fun started => (mirrors_generate request).bind fun reply => ?_
  cases reply with
  | error error => exact (mirrors_note _ _).bind fun _ => .pure _
  | ok text =>
      refine (mirrors_note _ _).bind fun _ => ?_
      refine (mirrors_run request.question text started _ fun _ => .pure ()).bind fun attempt => ?_
      cases attempt with
      | answered sql result => exact (mirrors_answered request.question sql result number).map
      | rejected rejection => exact mirrors_retry limit number request text 400 _
      | failed sql message => exact mirrors_retry limit number request text 500 message

theorem mirrors_attempts (limit left number : Nat) (request : SqlRequest) (last : Refusal) :
    Mirrors server clock (Question.attempts limit left number request last) := by
  induction left generalizing number request last with
  | zero => exact .pure _
  | succ left ih =>
      refine (mirrors_question_attempt limit number request).bind fun outcome => ?_
      cases outcome with
      | final response => exact .pure response
      | again next refusal => exact ih (number + 1) next refusal

theorem mirrors_question (text : String) : Mirrors server clock (Question.respond text) := by
  unfold Question.respond
  simp only
  split
  · exact .pure _
  · refine (mirrors_note _ _).bind fun _ => mirrors_schema.bind fun outcome => ?_
    cases outcome with
    | error error => exact (mirrors_note _ _).bind fun _ => .pure _
    | ok schema => exact mirrors_settings.bind fun _ => mirrors_attempts _ _ _ _ _

/-! ## Requests -/

theorem mirrors_respondQuery (body : QueryBody) : Mirrors server clock (respondQuery body) := by
  refine mirrors_now.bind fun started => ?_
  refine (mirrors_run _ body.query started _ fun _ => mirrors_note _ _).bind fun attempt => ?_
  cases attempt <;> exact .pure _

theorem mirrors_respondSchema : Mirrors server clock respondSchema := by
  refine mirrors_schema.bind fun outcome => ?_
  cases outcome with
  | ok text => exact .pure _
  | error error => exact (mirrors_note _ _).bind fun _ => .pure _

/-- The newest entries of a history as a response, at most so many. -/
def listing (settings : Settings) (limit : Option Nat) (history : History) : Http.Response :=
  ⟨200, .document
    (.array ((history.recent (limit.getD settings.historyCapacity)).map HistoryEntry.json))⟩

/-- Figures about a history as a response. -/
def figures (history : History) : Http.Response :=
  ⟨200, .document history.usage.json⟩

/-- The state of the service as a response. -/
def condition (settings : Settings) (reading : ClockReading) (history : History) : Http.Response :=
  answer [("version", .string version),
    ("uptimeSeconds", .integer (reading.milliseconds / 1000 : Nat)),
    ("dialect", .string settings.database.dialect.name),
    ("readOnly", .bool settings.database.readOnly),
    ("llmBackend", .string settings.assistant.backend),
    ("historyCount", .integer history.size)]

theorem mirrors_respondHistory (limit : Option Nat) :
    Mirrors server clock (respondHistory limit) :=
  .history (fun history => Work.settings >>= fun settings => pure (listing settings limit history))
    fun _ => mirrors_settings.bind fun _ => .pure _

theorem mirrors_respondAnalytics : Mirrors server clock respondAnalytics :=
  .history (fun history => pure (figures history)) fun _ => .pure _

theorem mirrors_respondStatus : Mirrors server clock respondStatus :=
  mirrors_settings.bind fun settings => mirrors_now.bind fun reading =>
    .history (fun history => pure (condition settings reading history)) fun _ => .pure _

/-- Every endpoint comes to the same in alike sessions. -/
theorem mirrors_endpoint (request : Http.Request) (endpoint : Endpoint) :
    Mirrors server clock (endpoint.respond request) := by
  cases endpoint with
  | ask => exact .responding fun body => mirrors_question body.question
  | query => exact .responding mirrors_respondQuery
  | validate =>
      exact .responding fun _ => mirrors_dialect.bind fun _ => (mirrors_logged _).bind fun _ => .pure _
  | explain =>
      exact .responding fun _ => mirrors_dialect.bind fun _ => (mirrors_logged _).bind fun _ => .pure _
  | suggest => exact .responding fun _ => .pure _
  | analyze => exact .responding fun _ => .pure _
  | schema => exact mirrors_respondSchema
  | history => exact .responding mirrors_respondHistory
  | analytics => exact mirrors_respondAnalytics
  | status => exact mirrors_respondStatus

theorem mirrors_route (request : Http.Request) : Mirrors server clock (route request) := by
  unfold route
  split
  · exact .pure _
  next endpoint _ =>
    split
    · exact (mirrors_endpoint request endpoint).map
    · exact .pure _

theorem mirrors_reportFailure (status : Nat) (started : ClockReading) :
    Mirrors server clock (reportFailure status started) := by
  unfold reportFailure
  split
  · exact mirrors_now.bind fun _ => mirrors_did rfl
  · exact .pure _

/-- The response to a request, and what is done for it, is the same in alike sessions. -/
theorem mirrors_respond (request : Http.Request) : Mirrors server clock (respond request) := by
  unfold respond
  split
  · exact .pure _
  · refine mirrors_now.bind fun started => (mirrors_route request).bind fun response => ?_
    exact (mirrors_reportFailure _ started).bind fun _ => .pure response

end Querent.Service

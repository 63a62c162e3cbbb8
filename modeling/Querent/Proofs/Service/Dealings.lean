import Mathlib.Data.List.Basic
import Querent.Proofs.Service.Deeds

/-!
# Dealings

The deeds that matter afterwards: what was asked of the database and of the assistant, and what was
recorded.  Looks at the clock and reports are left out.

What the assistant and the database answer depends on how often they were called before.  So
`Deals server calls work post` says of work, for every session with so many calls before, that its
outcome and its dealings satisfy a postcondition.
-/

namespace Querent.Service

/-- Whether a deed is more than a report or a look at the clock. -/
def Deed.isDealing : Deed → Bool
  | readSchema _ | generated _ _ | executed _ _ | recorded _ => true
  | readClock | reported _ => false

/-- The dealings among some deeds, in their order. -/
def dealings (done : List Deed) : List Deed :=
  done.filter Deed.isDealing

@[simp]
theorem dealings_nil : dealings [] = [] := rfl

@[simp]
theorem dealings_append (first second : List Deed) :
    dealings (first ++ second) = dealings first ++ dealings second :=
  List.filter_append ..

@[simp]
theorem dealings_reported (events : List Log.Event) : dealings (events.map Deed.reported) = [] := by
  simp [dealings, Deed.isDealing]

/-- What is seen of dealings alone is seen of all deeds. -/
theorem filterMap_dealings {α : Type} {view : Deed → Option α}
    (unseen : ∀ deed, deed.isDealing = false → view deed = none) (done : List Deed) :
    (dealings done).filterMap view = done.filterMap view := by
  rw [dealings, List.filterMap_filter]
  refine List.filterMap_congr fun deed _ => ?_
  cases dealing : deed.isDealing with
  | true => rfl
  | false => exact (unseen deed dealing).symm

/-- Dealings are counted among all deeds. -/
theorem countP_dealings {kind : Deed → Bool}
    (dealing : ∀ deed, kind deed = true → deed.isDealing = true) (done : List Deed) :
    (dealings done).countP kind = done.countP kind := by
  rw [dealings, List.countP_filter]
  refine List.countP_congr fun deed _ => ?_
  simp only [Bool.and_eq_true, and_iff_left_iff_imp]
  exact dealing deed

/-! ## Calls -/

/-- Whether a deed is a call of the assistant. -/
def Deed.isRequest (deed : Deed) : Bool :=
  deed.request?.isSome

/-- Whether a deed is an execution. -/
def Deed.isExecution (deed : Deed) : Bool :=
  deed.executed?.isSome

/-- How often the schema was read, the assistant was called and a query was executed. -/
structure Calls where
  schemas : Nat
  requests : Nat
  executions : Nat

/-- The calls among some deeds. -/
def Calls.among (done : List Deed) : Calls :=
  ⟨done.countP Deed.isSchema, done.countP Deed.isRequest, done.countP Deed.isExecution⟩

/-- The calls after further dealings. -/
def Calls.after (calls : Calls) (dealt : List Deed) : Calls where
  schemas := calls.schemas + dealt.countP Deed.isSchema
  requests := calls.requests + dealt.countP Deed.isRequest
  executions := calls.executions + dealt.countP Deed.isExecution

@[simp]
theorem Calls.after_nil (calls : Calls) : calls.after [] = calls := rfl

theorem Calls.after_append (calls : Calls) (first second : List Deed) :
    calls.after (first ++ second) = (calls.after first).after second := by
  simp [Calls.after, Nat.add_assoc]

theorem Calls.among_append (first second : List Deed) :
    Calls.among (first ++ second) = (Calls.among first).after (dealings second) := by
  have schema (deed : Deed) : deed.isSchema = true → deed.isDealing = true := by
    cases deed <;> simp [Deed.isSchema, Deed.isDealing]
  have request (deed : Deed) : deed.isRequest = true → deed.isDealing = true := by
    cases deed <;> simp [Deed.isRequest, Deed.request?, Deed.isDealing]
  have execution (deed : Deed) : deed.isExecution = true → deed.isDealing = true := by
    cases deed <;> simp [Deed.isExecution, Deed.executed?, Deed.isDealing]
  simp [Calls.among, Calls.after, countP_dealings schema, countP_dealings request,
    countP_dealings execution]

/-- The calls in a session. -/
def Session.calls (session : Session) : Calls :=
  .among session.deeds

theorem Session.calls_after (session : Session) (done : List Deed) :
    (session.after done).calls = session.calls.after (dealings done) :=
  Calls.among_append session.deeds done

/-- What the assistant answers after so many calls. -/
def Server.reply (server : Server) (calls : Nat) (request : SqlRequest) :
    Except AssistantError String :=
  (server.outside.generate calls request).result.1

/-! ## What work deals -/

/--
What work does in every session with so many calls before: its outcome and its dealings satisfy a
postcondition.
-/
def Deals {α : Type} (server : Server) (calls : Calls) (work : Work α)
    (post : α → List Deed → Prop) : Prop :=
  ∀ session : Session, session.calls = calls →
    ∃ outcome done, (work.run server).run session = (outcome, session.after done) ∧
      post outcome (dealings done)

namespace Deals

variable {α β : Type} {server : Server} {calls : Calls} {work : Work α}
  {post post' : α → List Deed → Prop}

theorem of_does (does : Does server work fun outcome done => post outcome (dealings done)) :
    Deals server calls work post :=
  fun session _ => does session

theorem mono (deals : Deals server calls work post)
    (weaker : ∀ outcome dealt, post outcome dealt → post' outcome dealt) :
    Deals server calls work post' := by
  intro session same
  obtain ⟨outcome, done, ran, holds⟩ := deals session same
  exact ⟨outcome, done, ran, weaker outcome _ holds⟩

theorem pure {outcome : α} (holds : post outcome []) :
    Deals server calls (Pure.pure outcome) post :=
  of_does (.pure holds)

theorem bind {next : α → Work β} {final : β → List Deed → Prop}
    (first : Deals server calls work post)
    (rest : ∀ outcome dealt, post outcome dealt →
      Deals server (calls.after dealt) (next outcome)
        fun result later => final result (dealt ++ later)) :
    Deals server calls (work >>= next) final := by
  intro session same
  obtain ⟨outcome, done, ran, holds⟩ := first session same
  obtain ⟨result, later, ranLater, holdsLater⟩ := rest outcome (dealings done) holds
    (session.after done) (by rw [session.calls_after, same])
  refine ⟨result, done ++ later, ?_, by rw [dealings_append]; exact holdsLater⟩
  rw [session.after_append]
  change (((next ((work.run server).run session).1).run server).run
    ((work.run server).run session).2) = _
  rw [ran]
  exact ranLater

theorem map {f : α → β} {final : β → List Deed → Prop}
    (deals : Deals server calls work post)
    (holds : ∀ outcome dealt, post outcome dealt → final (f outcome) dealt) :
    Deals server calls (f <$> work) final := by
  intro session same
  obtain ⟨outcome, done, ran, held⟩ := deals session same
  refine ⟨f outcome, done, ?_, holds outcome _ held⟩
  change (f ((work.run server).run session).1, ((work.run server).run session).2) = _
  rw [ran]

end Deals

/-! ## Work that deals nothing -/

variable {server : Server} {calls : Calls}

/-- Whether work deals nothing. -/
def Idle {α : Type} (server : Server) (work : Work α) : Prop :=
  Does server work fun _ done => dealings done = []

namespace Idle

variable {α β : Type} {work : Work α}

theorem pure (outcome : α) : Idle server (Pure.pure outcome) :=
  Does.pure rfl

theorem bind {next : α → Work β} (first : Idle server work)
    (rest : ∀ outcome, Idle server (next outcome)) : Idle server (work >>= next) :=
  Does.bind first fun outcome done nothing =>
    (rest outcome).mono fun _ later nothingLater => by
      rw [dealings_append, nothing, nothingLater, List.append_nil]

theorem deals (idle : Idle server work) : Deals server calls work fun _ dealt => dealt = [] :=
  .of_does idle

/-- Idle work before other work changes nothing about what is dealt. -/
theorem before {next : α → Work β} {final : β → List Deed → Prop} (first : Idle server work)
    (rest : ∀ outcome, Deals server calls (next outcome) final) :
    Deals server calls (work >>= next) final := by
  refine first.deals.bind ?_
  rintro outcome _ rfl
  exact rest outcome

end Idle

theorem idle_settings : Idle server Work.settings :=
  does_settings.mono fun _ _ ⟨_, nothing⟩ => by rw [nothing, dealings_nil]

theorem idle_dialect : Idle server Work.dialect :=
  does_dialect.mono fun _ _ ⟨_, nothing⟩ => by rw [nothing, dealings_nil]

theorem idle_get : Idle server (get : Work Session) :=
  does_get.mono fun _ _ nothing => by rw [nothing, dealings_nil]

theorem idle_logged {α : Type} (work : Log.Logged α) : Idle server (Work.logged work) :=
  (does_logged work).mono fun _ _ ⟨_, reports⟩ => by rw [reports, dealings_reported]

theorem idle_note (level : Log.Level) (message : String) : Idle server (Work.note level message) :=
  (does_note level message).mono fun _ _ report => by rw [report]; rfl

theorem idle_now : Idle server Work.now :=
  does_now.mono fun _ _ reading => by rw [reading]; rfl

theorem idle_reportFailure (status : Nat) (started : ClockReading) :
    Idle server (reportFailure status started) := by
  unfold reportFailure
  split
  · refine idle_now.bind fun _ => ?_
    exact (does_did rfl).mono fun _ _ report => by rw [report]; rfl
  · exact .pure _

/-- Every endpoint that neither executes queries nor reads the schema deals nothing. -/
theorem idle_endpoint {endpoint : Endpoint} (request : Http.Request) (notAsk : endpoint ≠ .ask)
    (notQuery : endpoint ≠ .query) (notSchema : endpoint ≠ .schema) :
    Idle server (endpoint.respond request) := by
  have content {α : Type} (found : Except Http.Response α) (respond : α → Work Http.Response)
      (idle : ∀ body, Idle server (respond body)) : Idle server (responding found respond) :=
    Does.responding (fun body _ => idle body) fun _ _ => rfl
  cases endpoint with
  | ask => exact absurd rfl notAsk
  | query => exact absurd rfl notQuery
  | schema => exact absurd rfl notSchema
  | validate =>
      exact content _ _ fun body =>
        idle_dialect.bind fun _ => (idle_logged _).bind fun _ => .pure _
  | explain =>
      exact content _ _ fun body =>
        idle_dialect.bind fun _ => (idle_logged _).bind fun _ => .pure _
  | suggest => exact content _ _ fun body => .pure _
  | analyze => exact content _ _ fun body => .pure _
  | history =>
      exact content _ _ fun limit =>
        idle_get.bind fun _ => idle_settings.bind fun _ => .pure _
  | analytics => exact idle_get.bind fun _ => .pure _
  | status =>
      exact idle_settings.bind fun _ => idle_now.bind fun _ => idle_get.bind fun _ => .pure _

/-! ## The elements of dealings -/

theorem deals_settings : Deals server calls Work.settings fun found dealt =>
    found = server.settings ∧ dealt = [] :=
  .of_does <| does_settings.mono fun _ _ ⟨same, nothing⟩ => ⟨same, by rw [nothing, dealings_nil]⟩

theorem deals_dialect : Deals server calls Work.dialect fun found dealt =>
    found = server.settings.database.dialect ∧ dealt = [] :=
  .of_does <| does_dialect.mono fun _ _ ⟨same, nothing⟩ => ⟨same, by rw [nothing, dealings_nil]⟩

theorem deals_read : Deals server calls (read : Work Server) fun found dealt =>
    found = server ∧ dealt = [] :=
  .of_does <| does_read.mono fun _ _ ⟨same, nothing⟩ => ⟨same, by rw [nothing, dealings_nil]⟩

theorem deals_logged {α : Type} (work : Log.Logged α) :
    Deals server calls (Work.logged work) fun outcome dealt =>
      outcome = work.result.1 ∧ dealt = [] :=
  .of_does <| (does_logged work).mono fun _ _ ⟨same, reports⟩ =>
    ⟨same, by rw [reports, dealings_reported]⟩

theorem deals_did {deed : Deed} (unrecorded : deed.historyEntry = none)
    (dealing : deed.isDealing = true) :
    Deals server calls (Work.did deed) fun _ dealt => dealt = [deed] :=
  .of_does <| (does_did unrecorded).mono fun _ _ same => by
    rw [same, dealings, List.filter_cons_of_pos dealing, List.filter_nil]

/-- A number of calls is looked up among the deeds of the session. -/
theorem deals_count {kind : Deed → Bool} (counted : Calls → Nat)
    (counts : ∀ session : Session, session.deeds.countP kind = counted session.calls) :
    Deals server calls (Work.count kind) fun found dealt => found = counted calls ∧ dealt = [] :=
  fun session same =>
    ⟨session.deeds.countP kind, [], by rw [session.after_nil]; rfl, by rw [counts, same], rfl⟩

theorem deals_schema : Deals server calls Work.schema fun outcome dealt =>
    outcome = server.outside.schema calls.schemas ∧ dealt = [.readSchema outcome] := by
  refine deals_read.bind ?_
  rintro _ _ ⟨rfl, rfl⟩
  refine (deals_count Calls.schemas fun _ => rfl).bind ?_
  rintro _ _ ⟨rfl, rfl⟩
  refine (deals_did rfl rfl).bind ?_
  rintro _ _ rfl
  exact .pure ⟨rfl, rfl⟩

theorem deals_generate (request : SqlRequest) :
    Deals server calls (Work.generate request) fun outcome dealt =>
      outcome = server.reply calls.requests request ∧ dealt = [.generated request outcome] := by
  refine (deals_count Calls.requests fun _ => rfl).bind ?_
  rintro _ _ ⟨rfl, rfl⟩
  refine deals_read.bind ?_
  rintro _ _ ⟨rfl, rfl⟩
  refine (deals_logged _).bind ?_
  rintro _ _ ⟨rfl, rfl⟩
  refine (deals_did rfl rfl).bind ?_
  rintro _ _ rfl
  exact .pure ⟨rfl, rfl⟩

theorem deals_execute (sql : String) :
    Deals server calls (Work.execute sql) fun outcome dealt =>
      outcome = server.outside.execute calls.executions sql ∧
        dealt = [.executed sql outcome] := by
  refine (deals_count Calls.executions fun _ => rfl).bind ?_
  rintro _ _ ⟨rfl, rfl⟩
  refine deals_read.bind ?_
  rintro _ _ ⟨rfl, rfl⟩
  refine (deals_did rfl rfl).bind ?_
  rintro _ _ rfl
  exact .pure ⟨rfl, rfl⟩

theorem deals_record (entry : HistoryEntry) :
    Deals server calls (Work.record entry) fun _ dealt => dealt = [.recorded entry] :=
  .of_does <| (does_record entry).mono fun _ _ recording => by rw [recording]; rfl

end Querent.Service

import Querent.Service.Endpoint

/-!
# What work does

Work of the service changes a session by its deeds alone: the deeds are added to those before, and
the history is what the recorded entries make of it.  `Does server work post` says this of a piece of
work, together with what holds of its outcome and its deeds.  The rules below follow the way in which
work is put together, so that a statement about an endpoint is proved along its definition.
-/

namespace Querent.Service

/-- A session after some deeds. -/
def Session.after (session : Session) (done : List Deed) : Session :=
  ⟨(done.filterMap Deed.historyEntry).foldl History.record session.history, session.deeds ++ done⟩

@[simp]
theorem Session.after_nil (session : Session) : session.after [] = session := by
  simp [Session.after]

@[simp]
theorem Session.after_append (session : Session) (first second : List Deed) :
    session.after (first ++ second) = (session.after first).after second := by
  simp [Session.after]

@[simp]
theorem Session.deeds_after (session : Session) (done : List Deed) :
    (session.after done).deeds = session.deeds ++ done := rfl

/--
What work does in every session: it leaves the session after its deeds, and its outcome and its
deeds satisfy a postcondition.
-/
def Does {α : Type} (server : Server) (work : Work α) (post : α → List Deed → Prop) : Prop :=
  ∀ session, ∃ outcome done,
    (work.run server).run session = (outcome, session.after done) ∧ post outcome done

namespace Does

variable {α β : Type} {server : Server} {work : Work α} {post post' : α → List Deed → Prop}

theorem mono (does : Does server work post)
    (weaker : ∀ outcome done, post outcome done → post' outcome done) :
    Does server work post' := by
  intro session
  obtain ⟨outcome, done, ran, holds⟩ := does session
  exact ⟨outcome, done, ran, weaker outcome done holds⟩

theorem pure {outcome : α} (holds : post outcome []) :
    Does server (Pure.pure outcome) post := by
  intro session
  exact ⟨outcome, [], by rw [session.after_nil]; rfl, holds⟩

theorem bind {next : α → Work β} {final : β → List Deed → Prop}
    (first : Does server work post)
    (rest : ∀ outcome done, post outcome done →
      Does server (next outcome) fun result later => final result (done ++ later)) :
    Does server (work >>= next) final := by
  intro session
  obtain ⟨outcome, done, ran, holds⟩ := first session
  obtain ⟨result, later, ranLater, holdsLater⟩ := rest outcome done holds (session.after done)
  refine ⟨result, done ++ later, ?_, holdsLater⟩
  rw [session.after_append]
  change (((next ((work.run server).run session).1).run server).run
    ((work.run server).run session).2) = _
  rw [ran]
  exact ranLater

theorem map {f : α → β} {final : β → List Deed → Prop} (does : Does server work post)
    (holds : ∀ outcome done, post outcome done → final (f outcome) done) :
    Does server (f <$> work) final := by
  intro session
  obtain ⟨outcome, done, ran, held⟩ := does session
  refine ⟨f outcome, done, ?_, holds outcome done held⟩
  change (f ((work.run server).run session).1, ((work.run server).run session).2) = _
  rw [ran]

/-- Responding to what a request carries. -/
theorem responding {content : Except Http.Response α} {respond : α → Work Http.Response}
    {post : Http.Response → List Deed → Prop}
    (accepted : ∀ body, content = .ok body → Does server (respond body) post)
    (refused : ∀ response, content = .error response → post response []) :
    Does server (Service.responding content respond) post := by
  cases content with
  | ok body => exact accepted body rfl
  | error response => exact .pure (refused response rfl)

/-- Work that only looks at the server and at the session does nothing. -/
theorem of_look (look : Session → α)
    (looks : ∀ session, (work.run server).run session = (look session, session))
    (holds : ∀ session, post (look session) []) : Does server work post := by
  intro session
  exact ⟨look session, [], by rw [looks, session.after_nil], holds session⟩

end Does

/-! ## The elements of work -/

variable {server : Server}

theorem does_read : Does server (read : Work Server) fun found done => found = server ∧ done = [] :=
  .of_look (fun _ => server) (fun _ => rfl) fun _ => ⟨rfl, rfl⟩

theorem does_get : Does server (get : Work Session) fun _ done => done = [] :=
  .of_look id (fun _ => rfl) fun _ => rfl

theorem does_settings :
    Does server Work.settings fun found done => found = server.settings ∧ done = [] :=
  .of_look (fun _ => server.settings) (fun _ => rfl) fun _ => ⟨rfl, rfl⟩

theorem does_dialect :
    Does server Work.dialect
      fun found done => found = server.settings.database.dialect ∧ done = [] :=
  .of_look (fun _ => server.settings.database.dialect) (fun _ => rfl) fun _ => ⟨rfl, rfl⟩

theorem does_count (kind : Deed → Bool) : Does server (Work.count kind) fun _ done => done = [] :=
  .of_look (fun session => session.deeds.countP kind) (fun _ => rfl) fun _ => rfl

/-- A deed that records nothing is added to what was done. -/
theorem does_did {deed : Deed} (unrecorded : deed.historyEntry = none) :
    Does server (Work.did deed) fun _ done => done = [deed] := by
  intro session
  refine ⟨(), [deed], ?_, rfl⟩
  simp only [Session.after, List.filterMap_cons, unrecorded, List.filterMap_nil, List.foldl_nil]
  rfl

theorem does_reportAll (events : List Log.Event) :
    Does server (events.forM fun event => Work.did (.reported event))
      fun _ done => done = events.map Deed.reported := by
  induction events with
  | nil => exact .pure rfl
  | cons event rest ih =>
      refine .bind (does_did rfl) ?_
      rintro _ _ rfl
      exact ih.mono fun _ later same => by rw [same]; rfl

theorem does_logged {α : Type} (work : Log.Logged α) :
    Does server (Work.logged work)
      fun outcome done => outcome = work.result.1 ∧ done = work.result.2.map Deed.reported := by
  refine .bind (does_reportAll work.result.2) ?_
  rintro _ _ rfl
  exact .pure ⟨rfl, by simp⟩

theorem does_note (level : Log.Level) (message : String) :
    Does server (Work.note level message)
      fun _ done => done = [.reported (Log.event level Work.source message)] :=
  does_did rfl

theorem does_schema :
    Does server Work.schema fun outcome done => done = [.readSchema outcome] := by
  refine .bind does_read ?_
  rintro _ _ ⟨rfl, rfl⟩
  refine .bind (does_count _) ?_
  rintro calls _ rfl
  refine .bind (does_did rfl) ?_
  rintro _ _ rfl
  exact .pure rfl

theorem does_generate (request : SqlRequest) :
    Does server (Work.generate request) fun outcome done =>
      ∃ events : List Log.Event,
        done = events.map Deed.reported ++ [.generated request outcome] := by
  refine .bind (does_count _) ?_
  rintro calls _ rfl
  refine .bind does_read ?_
  rintro _ _ ⟨rfl, rfl⟩
  refine .bind (does_logged _) ?_
  rintro outcome _ ⟨_, rfl⟩
  refine .bind (does_did rfl) ?_
  rintro _ _ rfl
  exact .pure ⟨_, by simp; rfl⟩

theorem does_execute (sql : String) :
    Does server (Work.execute sql) fun outcome done => done = [.executed sql outcome] := by
  refine .bind (does_count _) ?_
  rintro calls _ rfl
  refine .bind does_read ?_
  rintro _ _ ⟨rfl, rfl⟩
  refine .bind (does_did rfl) ?_
  rintro _ _ rfl
  exact .pure rfl

theorem does_now : Does server Work.now fun _ done => done = [.readClock] := by
  refine .bind does_read ?_
  rintro _ _ ⟨rfl, rfl⟩
  refine .bind (does_count _) ?_
  rintro calls _ rfl
  refine .bind (does_did rfl) ?_
  rintro _ _ rfl
  exact .pure rfl

theorem does_record (entry : HistoryEntry) :
    Does server (Work.record entry) fun _ done => done = [.recorded entry] := by
  intro session
  exact ⟨(), [.recorded entry], rfl, rfl⟩

end Querent.Service

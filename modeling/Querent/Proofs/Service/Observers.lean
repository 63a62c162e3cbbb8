import Querent.Proofs.Decimal.Digits
import Querent.Proofs.History.Calls
import Querent.Proofs.Service.Likeness
import Querent.Proofs.Service.Limits
import Querent.Proofs.Service.Recording

/-!
# Observers

Requests that only have something told: they may come and go in a list of requests, and nobody else
notices.  The responses to all other requests, what is dealt, and the history in the end are the same
with them and without them.  What they tell agrees: the state, the figures and the list of entries
count the same entries.
-/

namespace Querent.Service

/-- Whether an endpoint only tells something. -/
def Endpoint.isObserver : Endpoint → Bool
  | ask | query | schema => false
  | validate | explain | suggest | analyze | history | analytics | status => true

/-- Whether a request only has something told: it reaches no endpoint but an observer. -/
def observes (request : Http.Request) : Bool :=
  (reached? request).all Endpoint.isObserver

variable {server : Server}

/-- A request that only has something told deals nothing. -/
theorem deals_respond_of_observes {calls : Calls} {request : Http.Request}
    (observer : observes request = true) :
    Deals server calls (respond request) fun _ dealt => dealt = [] := by
  unfold observes at observer
  cases reached : reached? request with
  | none => exact deals_respond_of_unreached reached
  | some endpoint =>
      rw [reached, Option.all_some] at observer
      refine deals_respond_of_idle reached (idle_endpoint request ?_ ?_ ?_) <;>
        rintro rfl <;> cases observer

/-- A request that only has something told leaves the session as it looks. -/
theorem Server.step_of_observes (server : Server) (session : Session) {request : Http.Request}
    (observer : observes request = true) :
    session.Alike (server.step session request).2 ∧
      dealings (server.step session request).2.deeds = dealings session.deeds := by
  obtain ⟨response, done, stepped, nothing⟩ :=
    Server.step_of_deals (@deals_respond_of_observes server session.calls request observer)
  rw [stepped]
  refine ⟨(Session.Alike.refl session).after_right nothing, ?_⟩
  rw [Session.deeds_after, dealings_append, nothing, List.append_nil]

/-- In alike sessions a request has the same response, and the same is done for it. -/
theorem step_of_alike {clock : Nat → ClockReading} {s t : Session} (alike : s.Alike t)
    (request : Http.Request) :
    ∃ response done, server.step s request = (response, s.after done) ∧
      (ShowsAlike server clock s t (done.countP Deed.isClock) →
        (server.withClock clock).step t request = (response, t.after done)) :=
  mirrors_respond request s t alike

/-! ## Edited lists of requests -/

/-- A request in one or in both of two lists of requests. -/
inductive Edit where
  | kept (request : Http.Request)
  | inserted (request : Http.Request)
  | removed (request : Http.Request)

namespace Edit

/-- The request in the first list. -/
def before? : Edit → Option Http.Request
  | kept request | removed request => some request
  | inserted _ => none

/-- The request in the second list. -/
def after? : Edit → Option Http.Request
  | kept request | inserted request => some request
  | removed _ => none

/-- Whether the request is in both lists. -/
def isKept : Edit → Bool
  | kept _ => true
  | inserted _ | removed _ => false

/-- The request that is in one list alone. -/
def changed? : Edit → Option Http.Request
  | inserted request | removed request => some request
  | kept _ => none

end Edit

/-- Of the responses to one of the lists, those to requests that are in both. -/
def keptResponses (side : Edit → Option Http.Request) (edits : List Edit)
    (responses : List Http.Response) : List Http.Response :=
  ((edits.filter fun edit => (side edit).isSome).zip responses).filterMap fun (edit, response) =>
    if edit.isKept then some response else none

namespace Server

/-- The responses to requests. -/
def responses (server : Server) (session : Session) (requests : List Http.Request) :
    List Http.Response :=
  (server.run session requests).map Prod.fst

/--
Whether a server with another clock shows the same time to the requests that are in both lists: at
each of them, as often as the clock is looked at for it.
-/
def SameTimes (server : Server) (clock : Nat → ClockReading) : Session → Session → List Edit → Prop
  | _, _, [] => True
  | s, t, .kept request :: rest =>
    let next := (server.step s request).2
    ShowsAlike server clock s t (next.looks - s.looks) ∧
      SameTimes server clock next ((server.withClock clock).step t request).2 rest
  | s, t, .inserted request :: rest =>
    SameTimes server clock s ((server.withClock clock).step t request).2 rest
  | s, t, .removed request :: rest =>
    SameTimes server clock (server.step s request).2 t rest

/-- Whether two runs agree in the kept responses, in what is dealt and in the history. -/
structure Agree (server other : Server) (s t : Session) (edits : List Edit) : Prop where
  responses : keptResponses Edit.before? edits
      (server.responses s (edits.filterMap Edit.before?)) =
    keptResponses Edit.after? edits (other.responses t (edits.filterMap Edit.after?))
  dealings : dealings (server.ending s (edits.filterMap Edit.before?)).deeds =
    dealings (other.ending t (edits.filterMap Edit.after?)).deeds
  history : (server.ending s (edits.filterMap Edit.before?)).history =
    (other.ending t (edits.filterMap Edit.after?)).history

namespace Agree

variable {server other : Server} {s t : Session} {request : Http.Request} {edits : List Edit}

/-- A request in both lists that has the same response in both. -/
theorem kept (same : (server.step s request).1 = (other.step t request).1)
    (rest : Agree server other (server.step s request).2 (other.step t request).2 edits) :
    Agree server other s t (.kept request :: edits) where
  responses := congrArg₂ List.cons same rest.responses
  dealings := by
    simp only [List.filterMap_cons, Edit.before?, Edit.after?, ending_cons]
    exact rest.dealings
  history := by
    simp only [List.filterMap_cons, Edit.before?, Edit.after?, ending_cons]
    exact rest.history

theorem inserted (rest : Agree server other s (other.step t request).2 edits) :
    Agree server other s t (.inserted request :: edits) where
  responses := rest.responses
  dealings := by
    simp only [List.filterMap_cons, Edit.before?, Edit.after?, ending_cons]
    exact rest.dealings
  history := by
    simp only [List.filterMap_cons, Edit.before?, Edit.after?, ending_cons]
    exact rest.history

theorem removed (rest : Agree server other (server.step s request).2 t edits) :
    Agree server other s t (.removed request :: edits) where
  responses := rest.responses
  dealings := by
    simp only [List.filterMap_cons, Edit.before?, Edit.after?, ending_cons]
    exact rest.dealings
  history := by
    simp only [List.filterMap_cons, Edit.before?, Edit.after?, ending_cons]
    exact rest.history

end Agree

/-- Alike sessions, in which the same was dealt, stay so along edits that concern observers alone. -/
theorem agree_of_edits {clock : Nat → ClockReading} {s t : Session} {edits : List Edit}
    (alike : s.Alike t) (dealt : dealings s.deeds = dealings t.deeds)
    (observers : ∀ edit ∈ edits, edit.changed?.all observes = true)
    (times : server.SameTimes clock s t edits) :
    Agree server (server.withClock clock) s t edits := by
  induction edits generalizing s t with
  | nil => exact ⟨rfl, dealt, alike.history⟩
  | cons edit rest ih =>
      obtain ⟨observer, others⟩ := List.forall_mem_cons.1 observers
      cases edit with
      | kept request =>
          obtain ⟨shown, times⟩ := times
          obtain ⟨response, done, stepped, mirrored⟩ := @step_of_alike server clock s t alike request
          rw [stepped, Session.looks_after, Nat.add_sub_cancel_left] at shown
          have stepped' := mirrored shown
          rw [stepped, stepped'] at times
          refine .kept (by rw [stepped, stepped']) ?_
          rw [stepped, stepped']
          refine ih (alike.after done) ?_ others times
          simp only [Session.deeds_after, dealings_append, dealt]
      | inserted request =>
          obtain ⟨looks, unchanged⟩ := (server.withClock clock).step_of_observes t observer
          exact .inserted (ih (alike.trans looks) (dealt.trans unchanged.symm) others times)
      | removed request =>
          obtain ⟨looks, unchanged⟩ := server.step_of_observes s observer
          exact .removed (ih (looks.symm.trans alike) (unchanged.trans dealt) others times)

end Server

/-! ## What observers tell -/

/-- An endpoint responds to a request in the session in which the clock was looked at once. -/
theorem step_fst_of_reached {request : Http.Request} {endpoint : Endpoint}
    (reached : reached? request = some endpoint) (session : Session) :
    (server.step session request).1 =
      sentTo request.method
        (((endpoint.respond request).run server).run (session.after [.readClock])).1 := by
  obtain ⟨routed, known, accepted⟩ := reached?_eq_some_iff.1 reached
  have routes : route request = sentTo request.method <$> endpoint.respond request := by
    simp only [route, known, accepted, if_true]
  rw [Server.step, respond, if_neg (by simpa using routed), routes]
  rfl

theorem sentTo_get (response : Http.Response) : sentTo "GET" response = response := rfl

theorem field?_figures (history : History) :
    (figures history).field? "totalQueries" = some (.integer history.size) := by
  refine (Json.lookup_sortFields "totalQueries" _).trans ?_
  simp [History.usage, Usage.ofEntries, History.size]

theorem field?_condition (settings : Settings) (reading : ClockReading) (history : History) :
    (condition settings reading history).field? "historyCount" = some (.integer history.size) := by
  rw [condition, field?_answer]
  simp

/-- The documents in which the entries of a history are told. -/
def told (history : History) : List Json :=
  history.entries.map HistoryEntry.json

theorem step_of_status {request : Http.Request} (reached : reached? request = some .status)
    (gets : request.method = "GET") (session : Session) :
    (server.step session request).1.field? "historyCount" =
      some (.integer (told session.history).length) := by
  rw [step_fst_of_reached reached, gets, sentTo_get, told, List.length_map]
  exact field?_condition server.settings _ session.history

theorem step_of_analytics {request : Http.Request} (reached : reached? request = some .analytics)
    (gets : request.method = "GET") (session : Session) :
    (server.step session request).1.field? "totalQueries" =
      some (.integer (told session.history).length) := by
  rw [step_fst_of_reached reached, gets, sentTo_get, told, List.length_map]
  exact field?_figures session.history

theorem step_of_history {request : Http.Request} (reached : reached? request = some .history)
    (gets : request.method = "GET") {limit : Option Nat}
    (limited : decodeLimit request.query = .ok limit) (session : Session) :
    (server.step session request).1 =
      ⟨200, .document (.array
        ((told session.history).take (limit.getD server.settings.historyCapacity)))⟩ := by
  rw [step_fst_of_reached reached, gets, sentTo_get, told, ← List.map_take]
  have responds : Endpoint.history.respond request = respondHistory limit := by
    simp only [Endpoint.respond, limited, responding]
  rw [responds]
  rfl

/-! ## Reachable sessions -/

theorem foldl_record_showing (capacity : Nat) (shown entries : List HistoryEntry) :
    entries.foldl History.record (.showing capacity shown) =
      .showing capacity (shown ++ entries) := by
  induction entries generalizing shown with
  | nil => rw [List.foldl_nil, List.append_nil]
  | cons entry rest ih =>
      rw [List.foldl_cons, History.record_showing, ih, List.append_assoc, List.singleton_append]

/-- In every session that is reached, no more entries show than there is room for. -/
theorem length_told_ending_le (server : Server) (requests : List Http.Request) :
    (told (server.ending (.start server) requests).history).length ≤
      server.settings.historyCapacity := by
  have start : (Session.start server).history = .showing server.settings.historyCapacity [] :=
    (History.showing_nil _).symm
  rw [told, List.length_map, Server.ending_eq_after, Session.after, start, foldl_record_showing]
  exact Nat.le_trans (Nat.le_of_eq (History.size_showing _ _)) (Nat.min_le_left ..)

/-- Whether all that is told about the history of a session tells the same items. -/
structure Tells (server : Server) (session : Session) (items : List Json) : Prop where
  /-- The state tells the number of items. -/
  status : ∀ request, reached? request = some .status → request.method = "GET" →
    (server.step session request).1.field? "historyCount" = some (.integer items.length)
  /-- The figures tell the number of items. -/
  analytics : ∀ request, reached? request = some .analytics → request.method = "GET" →
    (server.step session request).1.field? "totalQueries" = some (.integer items.length)
  /-- Without a limit, all items are listed. -/
  history : ∀ request, reached? request = some .history → request.method = "GET" →
    decodeLimit request.query = .ok none →
      (server.step session request).1 = ⟨200, .document (.array items)⟩
  /-- With a limit, as many of the first items are listed as there are within the limit. -/
  limited : ∀ request limit, reached? request = some .history → request.method = "GET" →
    decodeLimit request.query = .ok (some limit) →
      (server.step session request).1 = ⟨200, .document (.array (items.take limit))⟩

theorem tells_told {session : Session}
    (room : (told session.history).length ≤ server.settings.historyCapacity) :
    Tells server session (told session.history) where
  status _ reached gets := step_of_status reached gets session
  analytics _ reached gets := step_of_analytics reached gets session
  history _ reached gets unlimited := by
    rw [step_of_history reached gets unlimited, Option.getD_none, List.take_of_length_le room]
  limited _ _ reached gets limited := step_of_history reached gets limited session

/--
Requests that only have something told may be put into a list of requests and taken out of it, at any
positions: as long as the clock shows the same to the other requests, the responses to these, what is
asked of the assistant and of the database, what is recorded and the history in the end are the same.
What they tell agrees in every session that is reached: the state and the figures count the items that
are listed without a limit, of which there are no more than there is room for, and with a limit the
first of these are listed.  A limit may be any machine word.
-/
theorem observers_unnoticed (server : Server) :
    (∀ (clock : Nat → ClockReading) (session : Session) (edits : List Edit),
      (∀ edit ∈ edits, edit.changed?.all observes = true) →
      server.SameTimes clock session session edits →
      server.Agree (server.withClock clock) session session edits) ∧
    (∀ requests, ∃ items : List Json, items.length ≤ server.settings.historyCapacity ∧
      Tells server (server.ending (.start server) requests) items) ∧
    decodeLimit "" = .ok none ∧
    ∀ n < Nat.pow 2 64, decodeLimit (limitQuery n) = .ok (some n) := by
  refine ⟨fun clock session edits observers times => ?_, fun requests => ?_, rfl,
    fun n fits => decodeLimit_limitQuery fits⟩
  · exact Server.agree_of_edits (.refl session) rfl observers times
  · have room := length_told_ending_le server requests
    exact ⟨_, room, tells_told room⟩

/-! ## A look at the state between two requests -/

/-- A service in which time passes with every look at the clock. -/
def ticking : Server where
  settings := .default
  outside := {
    schema := fun _ => .ok ""
    generate := fun _ _ => pure (.ok "SELECT 1")
    execute := fun _ _ => .ok ⟨⟨["n"], []⟩, 3⟩
    clock := fun looks => ⟨.epoch, looks⟩ }

/-- A clock that shows the same three times, and then lags by the two looks of a told state. -/
def lagging (looks : Nat) : ClockReading :=
  if looks < 3 then ⟨.epoch, looks⟩ else ⟨.epoch, looks - 2⟩

theorem lagging_of_lt {looks : Nat} (early : looks < 3) : lagging looks = ⟨.epoch, looks⟩ :=
  if_pos early

theorem lagging_of_eq_add {looks other : Nat} (lag : looks = other + 2) (late : 3 ≤ other) (k : Nat) :
    lagging (looks + k) = ⟨.epoch, other + k⟩ := by
  rw [lagging, if_neg (by omega), lag]
  congr 1
  omega

/-- A query is posted, the state is told, and the entries are listed. -/
def looksBetween : List Edit :=
  [.kept ⟨"POST", "/api/query", "", some "application/json", "\x7b\"query\":\"SELECT 1\"\x7d"⟩,
    .inserted ⟨"GET", "/api/status", "", none, ""⟩,
    .kept ⟨"GET", "/api/history", "", none, ""⟩]

theorem observers_unnoticed_ticking :
    ticking.Agree (ticking.withClock lagging) (.start ticking) (.start ticking) looksBetween ∧
      (∃ items : List Json, items.length ≤ 50 ∧
        Tells ticking (ticking.ending (.start ticking) (looksBetween.filterMap Edit.before?)) items) ∧
      decodeLimit (limitQuery 7) = .ok (some 7) := by
  obtain ⟨unnoticed, told, _, limits⟩ := observers_unnoticed ticking
  refine ⟨unnoticed lagging _ _ (by decide +kernel) ⟨fun k early => ?_, fun k _ => ?_, trivial⟩,
    told _, limits 7 (by decide)⟩
  · have early : 0 + k < 3 := (Nat.zero_add k).symm ▸ Nat.lt_of_lt_of_eq early (by decide +kernel)
    exact lagging_of_lt early
  · exact lagging_of_eq_add (by decide +kernel) (by decide +kernel) k

end Querent.Service

import Querent.Proofs.Service.Execution
import Querent.Proofs.Service.Trials

/-!
# Requests

From a request to its response.  A request that reaches an endpoint is dealt with there, and nothing
is dealt before or after; a request that reaches none deals nothing.  A posted query is tried once,
and the response tells how the trial ended.
-/

namespace Querent

/-- The content of a field of the document that a response holds. -/
def Http.Response.field? (response : Http.Response) (name : String) : Option Json :=
  match response.body with
  | .document (.object fields) => Json.lookup fields name
  | _ => none

namespace Service

variable {server : Server} {calls : Calls}

theorem field?_answer (fields : Json.Fields) (name : String) :
    (answer fields).field? name = Json.lookup fields.reverse name :=
  Json.lookup_sortFields name fields

theorem field?_refusal (refusal : Refusal) (name : String) :
    refusal.response.field? name =
      Json.lookup (Json.optionalField "suggestion" (refusal.suggestion.map .string) ++
        [("error", .string refusal.error)]) name := by
  refine (Json.lookup_sortFields name _).trans ?_
  cases refusal.suggestion <;> rfl

/-! ## Endpoints that are reached -/

theorem reached?_eq_some_iff {request : Http.Request} {endpoint : Endpoint} :
    reached? request = some endpoint ↔
      request.method ≠ "OPTIONS" ∧ Endpoint.ofPath? request.path = some endpoint ∧
        endpoint.accepts request.method = true := by
  unfold reached?
  split
  next granted => simp_all
  next routed => simp_all [Option.filter_eq_some_iff]

/-- A request that reaches an endpoint is dealt with there. -/
theorem deals_respond {request : Http.Request} {endpoint : Endpoint}
    {post : Http.Response → List Deed → Prop} (reached : reached? request = some endpoint)
    (deals : Deals server calls (endpoint.respond request) post) :
    Deals server calls (respond request) fun response dealt =>
      ∃ original, response = sentTo request.method original ∧ post original dealt := by
  obtain ⟨routed, known, accepted⟩ := reached?_eq_some_iff.1 reached
  have routes : route request = sentTo request.method <$> endpoint.respond request := by
    simp only [route, known, accepted, if_true]
  unfold respond
  rw [if_neg (by simpa using routed), routes]
  refine idle_now.before fun started => ?_
  have sent : Deals server calls (sentTo request.method <$> endpoint.respond request)
      fun response dealt => ∃ original, response = sentTo request.method original ∧
        post original dealt :=
    deals.map fun original dealt holds => ⟨original, rfl, holds⟩
  refine sent.bind fun response dealt holds => ?_
  refine (idle_reportFailure _ _).before fun _ => .pure ?_
  rw [List.append_nil]
  exact holds

/-- A request that reaches no endpoint deals nothing. -/
theorem deals_respond_of_unreached {request : Http.Request} (unreached : reached? request = none) :
    Deals server calls (respond request) fun _ dealt => dealt = [] := by
  unfold respond
  split
  next granted => exact .pure rfl
  next routed =>
    have nowhere : Idle server (route request) := by
      unfold route
      split
      next unknown => exact .pure _
      next endpoint known =>
        split
        next accepted =>
          have reached : reached? request = some endpoint :=
            reached?_eq_some_iff.2 ⟨by simpa using routed, known, accepted⟩
          rw [unreached] at reached
          cases reached
        next refused => exact .pure _
    exact (idle_now.bind fun _ => nowhere.bind fun _ =>
      (idle_reportFailure _ _).bind fun _ => .pure _).deals

/-- A response to a request with a body is sent back as it is. -/
theorem sentTo_of_takesBody {request : Http.Request} {endpoint : Endpoint}
    (reached : reached? request = some endpoint) (takesBody : endpoint.takesBody = true)
    (response : Http.Response) : sentTo request.method response = response := by
  obtain ⟨_, _, accepted⟩ := reached?_eq_some_iff.1 reached
  have posted : request.method = "POST" := by
    simpa [Endpoint.accepts, takesBody] using accepted
  rw [sentTo, posted]
  rfl

/-- What a request carries to an endpoint, if it reaches it with a body of the right shape. -/
def carried? {α : Type} (endpoint : Endpoint) (decoder : Json.Decoder α) (request : Http.Request) :
    Option α :=
  if reached? request = some endpoint then (decodeBody decoder request).toOption else none

theorem carried?_eq_some_iff {α : Type} {endpoint : Endpoint} {decoder : Json.Decoder α}
    {request : Http.Request} {body : α} :
    carried? endpoint decoder request = some body ↔
      reached? request = some endpoint ∧ decodeBody decoder request = .ok body := by
  unfold carried?
  split
  next reached =>
    cases decodeBody decoder request <;> simp [reached, Except.toOption]
  next unreached => simp [unreached]

/-! ## Posted queries -/

/-- The query that a request posts, with its question. -/
def postedBody? (request : Http.Request) : Option QueryBody :=
  carried? .query (Json.Decoder.record QueryBody.shape) request

/-- The response to a posted query, by how the attempt at it ended. -/
def Attempt.response (text : String) : Attempt → Http.Response
  | answered sql result => answer (resultFields sql result)
  | rejected rejection => (Refusal.advised 400 text rejection.message).response
  | failed sql message => (Refusal.advised 500 sql message).response

/-- The prompt for a posted query is its question, if it has one. -/
def QueryBody.prompt (body : QueryBody) : String :=
  body.question.getD ""

theorem deals_respondQuery (body : QueryBody) :
    Deals server calls (respondQuery body) fun response dealt =>
      ∃ attempt entry,
        Trial.Genuine server calls ⟨body.prompt, body.query, attempt, entry⟩ ∧
        dealt = Trial.deeds ⟨body.prompt, body.query, attempt, entry⟩ ∧
        response = attempt.response body.query := by
  refine idle_now.before fun started => ?_
  refine (deals_run body.prompt body.query started _ fun sql => idle_note _ _).bind ?_
  rintro attempt _ ⟨entry, genuine, rfl⟩
  cases attempt <;> exact .pure ⟨_, entry, genuine, List.append_nil _, rfl⟩

/-- A posted query is tried once. -/
theorem deals_posted {request : Http.Request} {body : QueryBody}
    (posts : postedBody? request = some body) :
    Deals server calls (respond request) fun response dealt =>
      ∃ attempt entry,
        Trial.Genuine server calls ⟨body.prompt, body.query, attempt, entry⟩ ∧
        dealt = Trial.deeds ⟨body.prompt, body.query, attempt, entry⟩ ∧
        response = attempt.response body.query := by
  obtain ⟨reached, decoded⟩ := carried?_eq_some_iff.1 posts
  have responds : Endpoint.query.respond request = respondQuery body := by
    simp only [Endpoint.respond, decoded, responding]
  refine (deals_respond reached (responds ▸ deals_respondQuery body)).mono ?_
  rintro _ dealt ⟨original, rfl, holds⟩
  rw [sentTo_of_takesBody reached rfl]
  exact holds

/-! ## Steps -/

namespace Server

theorem step_of_deals {server : Server} {session : Session} {request : Http.Request}
    {post : Http.Response → List Deed → Prop}
    (deals : Deals server session.calls (respond request) post) :
    ∃ response done, server.step session request = (response, session.after done) ∧
      post response (dealings done) :=
  deals session rfl

end Server

end Service

end Querent

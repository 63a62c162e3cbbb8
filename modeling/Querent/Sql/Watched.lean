import Querent.Log.Event
import Querent.Sql.Gateway
import Querent.Sql.Explanation

/-!
# The watched gateway

The gateway and the explanation together with what they report: every verdict of the gateway, and
every query that cannot be explained.  Watching changes neither a verdict nor an explanation.
-/

namespace Querent.Sql

/-- The source of what is reported about verdicts. -/
def gatewaySource : String := "nl_analyst::sql::gateway"

/-- The source of what is reported about explanations. -/
def explanationSource : String := "nl_analyst::sql::explain"

/-- What is reported about a verdict. -/
def verdictEvent : Verdict → Log.Event
  | .ok sql => Log.event .debug gatewaySource ("Query accepted by gateway: " ++ sql)
  | .error rejection =>
    Log.event .warn gatewaySource ("Query rejected by gateway: " ++ rejection.message)

/-- The verdict on a query, which is reported. -/
def watchedVerdict (dialect : Dialect) (text : String) : Log.Logged Verdict := do
  let verdict := validate dialect text
  modify (· ++ [verdictEvent verdict])
  return verdict

/-- What is reported about the explanation of a text. -/
def explanationEvents (dialect : Dialect) (text : String) : List Log.Event :=
  match parseStatements dialect text with
  | .ok _ => []
  | .error error =>
    [Log.event .debug explanationSource
      ("Could not parse query for explanation: " ++ error.message)]

/-- The sentence on a text, with a report when the text cannot be read. -/
def watchedExplanation (dialect : Dialect) (text : String) : Log.Logged String := do
  modify (· ++ explanationEvents dialect text)
  return explain dialect text

/-- A verdict as a document. -/
def verdictJson : Verdict → Json
  | .ok sql => .ofFields [("isValid", .bool true), ("sanitizedQuery", .string sql)]
  | .error rejection => .ofFields [("isValid", .bool false), ("error", .string rejection.message)]

/-- Watching does not change a verdict. -/
@[simp]
theorem watchedVerdict_fst (dialect : Dialect) (text : String) (events : List Log.Event) :
    ((watchedVerdict dialect text).run events).1 = validate dialect text := by
  unfold watchedVerdict
  generalize validate dialect text = verdict
  rfl

/-- Watching does not change an explanation. -/
@[simp]
theorem watchedExplanation_fst (dialect : Dialect) (text : String) (events : List Log.Event) :
    ((watchedExplanation dialect text).run events).1 = explain dialect text := by
  unfold watchedExplanation
  generalize explain dialect text = explanation
  rfl

end Querent.Sql

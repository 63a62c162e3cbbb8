import Querent.Log.Event
import Querent.Settings.Basic

/-!
# Listening

The service from the moment at which it takes its address to the moment at which it is told to stop.
-/

namespace Querent.Service

/-- The source of what is reported about listening. -/
def listeningSource : String := "nl_analyst::web"

/-- Why the service cannot listen. -/
inductive ListeningError where
  | addressInUse
  deriving DecidableEq, Repr

/-- A host as it is shown in an address. -/
def shownHost (host : String) : String :=
  if host == "localhost" then "127.0.0.1"
  else if host.toList.contains ':' then "[" ++ host ++ "]"
  else host

/-- Listens at a port of a host until the service is told to stop, if the port is free. -/
def listen (host port : String) (isFree : Bool) : Log.Logged (Except ListeningError Unit) := do
  if isFree then
    Log.note .info listeningSource ("Listening on http://" ++ shownHost host ++ ":" ++ port)
    Log.note .info listeningSource "Shutdown signal received"
    return .ok ()
  else return .error .addressInUse

end Querent.Service

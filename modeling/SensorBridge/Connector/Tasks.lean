import SensorBridge.Connector.Handling
import SensorBridge.Connector.Registration

/-!
The tasks of a connector. A task runs its routine again and again until the routine says that it
is over.
-/
namespace SensorBridge.Routine

def listen (grace : Nat) : Routine Bool := do
  match ← request .nextChange with
  | none => return false
  | some (change, ticket) =>
    let ack ← applyAndReport grace change
    request (.acknowledge ticket ack)
    return true

def retryOnce (settings : ConnectorSettings) : Routine Bool := do
  if ← request (.pause settings.retryInterval) then return false
  let _ ← holding .ledger (sweep settings.grace)
  return true

/-- Hands a message to the subscriptions that cover its topic, one after the other. -/
def dispatchAll (read : PayloadReaders) (url : String) (m : Message) : List String → Routine Unit
  | [] => pure ()
  | topic :: rest => do
    dispatch (read topic) ⟨url, topic⟩ m
    dispatchAll read url m rest

/-- Deals with the next event of a session. A connection without its old state is subscribed anew
by a task of its own, so that events keep flowing. -/
def route (read : PayloadReaders) (url : String) (session : SessionId) : Routine Bool := do
  match ← request (.nextEvent session) with
  | none => return false
  | some (.message m) =>
    let topics := ((← memory).linkOf? session).elim [] (·.covering m.topic)
    dispatchAll read url m topics
    return true
  | some (.connected false) =>
    let topics := ((← memory).linkOf? session).elim [] (·.table.map (·.topic))
    request (.spawn (.resubscribe session topics))
    return true
  | some _ => return true

/-- Subscribes a topic again if it is still tracked. It is looked up while no other call is under
way on the session, so a topic that was dropped meanwhile is left alone. -/
def resubscribeOne (session : SessionId) (topic : String) : Routine Unit :=
  holding (.calls session) do
    match ((← memory).linkOf? session).bind (·.find? topic) with
    | none => pure ()
    | some s => do
      let _ ← call (.subscribe session topic s.qos)

def resubscribeAll (session : SessionId) : List String → Routine Unit
  | [] => pure ()
  | topic :: rest => do
    resubscribeOne session topic
    resubscribeAll session rest

def ofJob (settings : ConnectorSettings) (read : PayloadReaders) : Job → Routine Bool
  | .listener => listen settings.grace
  | .retry => retryOnce settings
  | .router url session => route read url session
  | .resubscribe session topics => do
    resubscribeAll session topics
    return false
  | .closing l => do
    let _ ← closeLink settings.grace l
    return false

/-- Tells the tasks to stop, waits for them and ends all links. -/
def shutdown : Routine Unit := do
  request .stop
  let _ ← request (.join .listener none)
  let _ ← request (.join .retry none)
  disconnectAll

end SensorBridge.Routine

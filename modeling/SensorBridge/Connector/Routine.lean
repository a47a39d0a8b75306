import SensorBridge.Cache
import SensorBridge.Connector.Error
import SensorBridge.Connector.Ledger

/-!
Routines: what a task of the connector does, as a tree of requests to its surroundings. A request
is answered with a value that decides how the routine goes on. Reading and changing the common
memory is one request, so it cannot be interrupted; calls to the outside, locks and pauses are
where other tasks may come in between.
-/
namespace SensorBridge

inductive Call where
  | connect (feed : Feed)
  | subscribe (session : SessionId) (topic : String) (qos : Qos)
  | unsubscribe (session : SessionId) (topic : String)
  | disconnect (session : SessionId) (grace : Nat)
  | enumerate (page perPage : Nat)
  | lookup (resource : String)
  | submit (batch : Batch)

abbrev Call.Reply : Call → Type
  | connect _ => Except BrokerError SessionId
  | subscribe .. => Except BrokerError Unit
  | unsubscribe .. => Except BrokerError Unit
  | disconnect .. => Except BrokerError Unit
  | enumerate .. => Except CatalogError (List Source × Nat)
  | lookup _ => Except CatalogError (Option Source)
  | submit _ => Except StorageError Unit

/-- What the tasks of a connector share. `retired` are links that left the ledger while tasks may
still read their tables. -/
structure Memory where
  ledger : Ledger := {}
  retired : List Link := []
  cache : Cache
  deriving Inhabited

/-- The link of a session, in the ledger or retired. -/
def Memory.linkOf? (m : Memory) (session : SessionId) : Option Link :=
  (m.ledger.links ++ m.retired).find? (·.session == session)

/-- Held by one task at a time: the ledger, and the subscribe and unsubscribe calls of a session. -/
inductive Lock where
  | ledger
  | calls (session : SessionId)
  deriving DecidableEq, Repr

inductive Job where
  /-- Applies changes of the catalog, one after the other. -/
  | listener
  /-- Tries failed registrations again from time to time. -/
  | retry
  /-- Hands out what a session reports. -/
  | router (url : String) (session : SessionId)
  /-- Subscribes topics again on a new connection. -/
  | resubscribe (session : SessionId) (topics : List String)
  | closing (link : Link)
  deriving DecidableEq, Repr

inductive LogEntry where
  | dropping (request entry reason subscription : String)
  | accepted (request : String) (points sources : Nat)
  | nothingToStore (request : String)
  | malformed (request error payload : String)
  | batchLost (request error : String)
  deriving DecidableEq, Repr

/-- Changes on their way to the listener are numbered. -/
abbrev Ticket : Type := Nat

inductive Request where
  | call (c : Call)
  | update (f : Memory → Memory)
  | acquire (l : Lock)
  | release (l : Lock)
  | spawn (job : Job)
  | abort (job : Job)
  | join (job : Job) (limit : Option Nat)
  | log (entry : LogEntry)
  | pause (ms : Nat)
  | sleep (ms : Nat)
  | nextChange
  | acknowledge (ticket : Ticket) (ack : Ack)
  | nextEvent (session : SessionId)
  | deliver (session : SessionId) (event : SessionEvent)
  | send (change : Change)
  | answer (ticket : Ticket)
  | stop

/-- How the end of a task was seen by one that waited for it. -/
inductive Joined where
  | done
  | faulted (f : Fault)
  | late

abbrev Request.Answer : Request → Type
  | call c => Except Fault c.Reply
  /- The memory before the change. -/
  | update _ => Memory
  | acquire _ => Unit
  | release _ => Unit
  | spawn _ => Unit
  | abort _ => Unit
  | join .. => Joined
  | log _ => Unit
  /- Whether the connector was told to stop meanwhile. -/
  | pause _ => Bool
  | sleep _ => Unit
  /- None when the connector was told to stop. -/
  | nextChange => Option (Change × Ticket)
  | acknowledge .. => Unit
  /- None at the end of the session. -/
  | nextEvent _ => Option SessionEvent
  /- Whether a router listens; waits for room among its events. -/
  | deliver .. => Bool
  /- None when nobody listens. -/
  | send _ => Option Ticket
  | answer _ => Ack
  | stop => Unit

/-- A tree of requests. It ends with a value or with a fault. -/
inductive Routine (α : Type) : Type where
  | done (x : α)
  | fault (f : Fault)
  | ask (r : Request) (k : r.Answer → Routine α)

namespace Routine

variable {α β : Type}

protected def bind : Routine α → (α → Routine β) → Routine β
  | done x, f => f x
  | fault e, _ => fault e
  | ask r k, f => ask r fun a => (k a).bind f

instance : Monad Routine where
  pure := done
  bind := Routine.bind

def request (r : Request) : Routine r.Answer :=
  ask r done

/-- A call to the outside. A fault of the other side ends the routine. -/
def call (c : Call) : Routine c.Reply :=
  ask (.call c) fun
    | .ok reply => done reply
    | .error f => fault f

/-- Changes the memory and reads what it was before. -/
def update (f : Memory → Memory) : Routine Memory :=
  ask (.update f) done

def memory : Routine Memory :=
  update id

def ledger : Routine Ledger := do
  return (← memory).ledger

def modifyLedger (f : Ledger → Ledger) : Routine Unit := do
  let _ ← update fun m => { m with ledger := f m.ledger }

/-- The routine with its fault, if it ends in one, as a value. -/
def attempt : Routine α → Routine (Except Fault α)
  | done x => done (.ok x)
  | fault f => done (.error f)
  | ask r k => ask r fun a => attempt (k a)

/-- Runs `cleanup` when the routine ends in a fault, which then goes on. -/
def onFault (p : Routine α) (cleanup : Routine Unit) : Routine α := do
  match ← p.attempt with
  | .ok x => pure x
  | .error f => do
    cleanup
    fault f

def holding (l : Lock) (p : Routine α) : Routine α := do
  request (.acquire l)
  match ← p.attempt with
  | .ok x => do
    request (.release l)
    pure x
  | .error f => do
    request (.release l)
    fault f

end Routine

end SensorBridge

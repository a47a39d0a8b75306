import SensorBridge.Connector.Routine
import SensorBridge.Settings

/-!
Registrations: how data sources come to be receivers of a topic and cease to be, and how changes
of the catalog are applied. All of these run while holding the ledger.
-/
namespace SensorBridge.Routine

/-- Ends a link: disconnects the session and gives its router time to finish what it holds. -/
def closeLink (grace : Nat) (l : Link) : Routine (Except BrokerError Unit) := do
  let router := Job.router l.url l.session
  let result ← onFault (call (.disconnect l.session grace)) (request (.abort router))
  match ← request (.join router (some grace)) with
  | .late => request (.abort router)
  | _ => pure ()
  return result

/-- Subscribes a topic, one call on a session at a time, and tracks it as soon as the broker has
acknowledged it. -/
def subscribe (session : SessionId) (topic : String) (qos : Qos) (track : Ledger → Ledger) :
    Routine (Except ConnectorError Unit) :=
  holding (.calls session) do
    match ← call (.subscribe session topic qos) with
    | .error e => return .error (.broker e)
    | .ok () =>
      modifyLedger track
      return .ok ()

/-- Opens a link for a first topic. A link whose first topic fails is closed again. -/
def openLink (grace : Nat) (feed : Feed) (qos : Qos) : Routine (Except ConnectorError Unit) := do
  match ← call (.connect feed) with
  | .error e => return .error (.broker e)
  | .ok session =>
    let router := Job.router feed.url session
    request (.spawn router)
    let l : Link := { url := feed.url, session }
    let subscribed ← onFault
      (subscribe session feed.topic qos fun g => g.insert (l.track feed.topic qos))
      (request (.abort router))
    match subscribed with
    | .error e =>
      let _ ← closeLink grace l
      return .error e
    | .ok () => return .ok ()

/-- The delivery level of a feed that a broker can serve. -/
def checkFeed (feed : Feed) : Except ConnectorError Qos :=
  match feed.qos? with
  | none => .error (.qos feed.url feed.topic feed.level)
  | some qos =>
    match Topic.validate feed.topic with
    | .error e => .error (.filter e)
    | .ok () => .ok qos

/-- Adds a receiver for a feed. Only the first one of a topic subscribes, and only the first one of
a url connects. -/
def register (grace : Nat) (feed : Feed) : Routine (Except ConnectorError Unit) := do
  match checkFeed feed with
  | .error e => return .error e
  | .ok qos =>
    match (← ledger).link? feed.url with
    | none => openLink grace feed qos
    | some l =>
      match l.find? feed.topic with
      | some _ =>
        modifyLedger fun g => g.modify feed.url (·.increment feed.topic)
        return .ok ()
      | none => subscribe l.session feed.topic qos fun g => g.modify feed.url (·.track feed.topic qos)

/-- Unsubscribes a topic whose last receiver has left, and closes its link if that was the last
topic. -/
def unsubscribeLast (grace : Nat) (l : Link) (topic : String) :
    Routine (Except ConnectorError Unit) := do
  let result ← holding (.calls l.session) (call (.unsubscribe l.session topic))
  match (← ledger).link? l.url with
  | some l =>
    if l.table.isEmpty then
      modifyLedger fun g => g.erase l.url
      let _ ← closeLink grace l
  | none => pure ()
  match result with
  | .ok () => return .ok ()
  | .error e => return .error (.broker e)

/-- Removes a receiver of a feed. One that was never added is ignored. -/
def unregister (grace : Nat) (feed : Feed) : Routine (Except ConnectorError Unit) := do
  match (← ledger).link? feed.url with
  | none => return .ok ()
  | some l =>
    match l.find? feed.topic with
    | none => return .ok ()
    | some s =>
      modifyLedger fun g => g.modify feed.url (·.decrement feed.topic)
      if 1 < s.receivers then return .ok ()
      else unsubscribeLast grace l feed.topic

/-- Registers the feed of a data source, and notes it for another attempt if that fails. -/
def registerOrPostpone (grace : Nat) (id : String) (feed : Feed) :
    Routine (Except ConnectorError Unit) := do
  match ← register grace feed with
  | .ok () => return .ok ()
  | .error e =>
    modifyLedger fun g => g.postpone id feed
    return .error e

def applyCreated (grace : Nat) (s : Source) : Routine (Except ConnectorError Unit) :=
  match s.feed with
  | none => return .ok ()
  | some feed => registerOrPostpone grace s.id feed

/-- Takes a data source off the waiting registrations; says whether it was among them. -/
def settle (id : String) : Routine Bool := do
  let m ← update fun m => { m with ledger := m.ledger.settle id }
  return m.ledger.isPending id

/-- Removes the receiver of a data source unless its registration was still waiting. -/
def leave (grace : Nat) (wasPending : Bool) (feed : Option Feed) :
    Routine (Except ConnectorError Unit) :=
  match wasPending, feed with
  | false, some feed => unregister grace feed
  | _, _ => return .ok ()

def modifyCache (f : Cache → Cache) : Routine Unit := do
  let _ ← update fun m => { m with cache := f m.cache }

/-- Forgets what the cache knows under the old and the new name, and everything if the retention
period changed. Messages may be handled between these steps. -/
def refreshCache (old new : Source) : Routine Unit := do
  if old.retention ≠ new.retention then modifyCache (·.clear)
  modifyCache (·.remove old.resource)
  modifyCache (·.remove new.resource)

/-- Moves the receiver of a data source from its old feed to its new one. The first failure is
reported, but the second step is taken all the same. -/
def applyUpdated (grace : Nat) (old new : Source) : Routine (Except ConnectorError Unit) := do
  refreshCache old new
  if old.feed = new.feed then return .ok ()
  let wasPending ← settle old.id
  let left ← leave grace wasPending old.feed
  match new.feed with
  | none => return left
  | some feed =>
    match left, ← registerOrPostpone grace new.id feed with
    | .error e, _ => return .error e
    | .ok (), r => return r

def applyDeleted (grace : Nat) (s : Source) : Routine (Except ConnectorError Unit) := do
  modifyCache (·.clear)
  let wasPending ← settle s.id
  leave grace wasPending s.feed

def applyChange (grace : Nat) : Change → Routine (Except ConnectorError Unit)
  | .created s => applyCreated grace s
  | .updated old new => applyUpdated grace old new
  | .deleted s => applyDeleted grace s

def attemptEach (grace : Nat) : List (String × Feed) → Routine Unit
  | [] => pure ()
  | (id, feed) :: rest => do
    match ← register grace feed with
    | .ok () => modifyLedger fun g => g.settle id
    | .error _ => pure ()
    attemptEach grace rest

/-- One attempt at every waiting registration, in the order of the ids; returns how many are left. -/
def sweep (grace : Nat) : Routine Nat := do
  attemptEach grace (← ledger).pending
  return (← ledger).pending.length

def registerPage (grace : Nat) : List Source → Routine Unit
  | [] => pure ()
  | s :: rest => do
    match s.feed with
    | none => pure ()
    | some feed => do
      let _ ← registerOrPostpone grace s.id feed
    registerPage grace rest

/-- Registers the data sources of the pages from `page` on, at most `fuel` pages of them. The product
that tells the last page has 64 bits if the totals have 63. -/
def replayFrom (settings : ConnectorSettings) : Nat → Nat → Routine (Except ConnectorError Unit)
  | 0, _ => return .ok ()
  | fuel + 1, page => do
    match ← call (.enumerate page settings.pageSize) with
    | .error e => return .error (.catalog e)
    | .ok (sources, total) =>
      if sources.isEmpty then return .ok ()
      registerPage settings.grace sources
      if total ≤ page * settings.pageSize then return .ok ()
      replayFrom settings fuel (page + 1)

/-- Pages are numbered in 64 bits. -/
def maxPages : Nat := UInt64.size

def replay (settings : ConnectorSettings) : Routine (Except ConnectorError Unit) :=
  holding .ledger (replayFrom settings maxPages 1)

/-- Applies a change and turns the outcome into an acknowledgment. A fault is caught here. -/
def applyAndReport (grace : Nat) (change : Change) : Routine Ack := do
  match ← (holding .ledger (applyChange grace change)).attempt with
  | .ok (.ok ()) => return .ok ()
  | .ok (.error e) => return .error (.rejected e.message)
  | .error f => return .error (.fault f.reason)

/-- Ends all links at the same time. -/
def disconnectAll : Routine Unit :=
  holding .ledger do
    let m ← update fun m =>
      { m with ledger := { m.ledger with links := [] }, retired := m.retired ++ m.ledger.links }
    spawnAll m.ledger.links
    joinAll m.ledger.links
where
  spawnAll : List Link → Routine Unit
    | [] => pure ()
    | l :: ls => do
      request (.spawn (.closing l))
      spawnAll ls
  joinAll : List Link → Routine Unit
    | [] => pure ()
    | l :: ls => do
      match ← request (.join (.closing l) none) with
      | .faulted f => fault f
      | _ => joinAll ls

end SensorBridge.Routine

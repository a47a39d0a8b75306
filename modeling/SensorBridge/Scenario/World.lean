import SensorBridge.Connector.Routine

/-!
A scripted world around a connector: brokers, a catalog and a sink that answer as rules prescribe
and note what they were asked.
-/
namespace SensorBridge.Scenario

/-- A failure to answer with; the url and the topic are those of the call. -/
inductive Failure where
  | connect (reason : String)
  | subscribe (reason : String)
  | unsubscribe (reason : String)
  | rejected (code : ReturnCode)
  | timeout (operation : String) (millis : Nat)
  | closed
  | invalidUrl (option : String)
  deriving DecidableEq, Repr

def Failure.error (url topic : String) : Failure → BrokerError
  | connect reason => .connect url reason
  | subscribe reason => .subscribe topic reason
  | unsubscribe reason => .unsubscribe topic reason
  | rejected code => .rejected url code
  | timeout operation millis => .timeout url operation millis
  | closed => .sessionClosed url
  | invalidUrl option => .invalidUrl url (.unknown option)

/-- What a broker does with a call: it waits, and then faults or fails. -/
structure BrokerRule where
  delay : Nat := 0
  fault : Option Fault := none
  failure : Option Failure := none
  deriving DecidableEq, Repr, Inhabited

structure CatalogRule where
  /-- `not_found` is the catalog's own answer for an unknown name. -/
  failLookup : Option String := none
  lookupDelay : Nat := 0
  failPage : Option Nat := none
  total : Option Nat := none
  deriving DecidableEq, Repr, Inhabited

structure SinkRule where
  fail : Option String := none
  delay : Nat := 0
  deriving DecidableEq, Repr, Inhabited

/-- Where the catalog has its data sources from: a plain list, or a catalog proper. -/
inductive Content where
  | list (sources : List Source)
  | catalog (c : Catalog)
  deriving Repr

def Content.lookup (c : Content) (resource : String) : Option Source :=
  match c with
  | list sources => sources.find? (·.resource == resource)
  | catalog c => c.lookup resource

/-- A page of the data sources and how many there are; a plain list can be told what to say of
that. -/
def Content.enumerate (c : Content) (page perPage : Nat) (total : Option Nat) :
    List Source × Nat :=
  match c with
  | list sources =>
    ((sources.drop ((page - 1) * perPage)).take perPage, total.getD sources.length)
  | catalog c => c.enumerate page perPage

/-- The two ends of a session: the broker pushes events while it is open, and a router takes them
while it listens. -/
structure Session where
  id : SessionId
  url : String
  events : List SessionEvent := []
  isOpen : Bool := true
  isHeard : Bool := true
  /-- Whether an event waits for room among the events. -/
  isExpecting : Bool := false
  deriving Repr, Inhabited

def Session.capacity : Nat := 64

def Session.isOver (s : Session) : Bool :=
  s.events.isEmpty && !s.isOpen && !s.isExpecting

inductive CallRecord where
  | connect (url : String) (credentials : Option Credentials)
  | subscribe (url topic : String) (qos : Qos)
  | unsubscribe (url topic : String)
  | disconnect (url : String) (grace : Nat)
  deriving DecidableEq, Repr

/-- What happened since the last report, the latest first. -/
structure Journal where
  calls : List CallRecord := []
  lookups : List String := []
  pages : List (Nat × Nat) := []
  stored : List Batch := []
  log : List LogEntry := []
  deriving Inhabited

structure World where
  brokerRules : List (String × BrokerRule) := []
  catalogRule : CatalogRule := {}
  sinkRule : SinkRule := {}
  content : Content := .list []
  sessions : Array Session := #[]
  sink : Sink := {}
  journal : Journal := {}

/-- What comes of a call: the time it takes, and what then happens. -/
structure Attempt (c : Call) where
  delay : Nat
  finish : World → World × Except Fault c.Reply

namespace World

def rule (w : World) (operation subject : String) : BrokerRule :=
  (w.brokerRules.lookup (operation ++ ":" ++ subject)).getD {}

def note (w : World) (f : Journal → Journal) : World :=
  { w with journal := f w.journal }

def noteCall (w : World) (c : CallRecord) : World :=
  w.note fun j => { j with calls := c :: j.calls }

def session? (w : World) (id : SessionId) : Option Session :=
  w.sessions[id]?

def urlOf (w : World) (id : SessionId) : String :=
  ((w.session? id).map (·.url)).getD ""

/-- The open session of a url; there is at most one. -/
def current? (w : World) (url : String) : Option Session :=
  w.sessions.find? fun s => s.url == url && s.isOpen

def modifySession (w : World) (id : SessionId) (f : Session → Session) : World :=
  { w with sessions := w.sessions.modify id f }

/-- Opens a session. An older one of the same url gets no more events. -/
def openSession (w : World) (url : String) : World × SessionId :=
  let id := w.sessions.size
  let sessions := w.sessions.map fun s => if s.url == url then { s with isOpen := false } else s
  ({ w with sessions := sessions.push { id, url } }, id)

def closeSession (w : World) (id : SessionId) : World :=
  w.modifySession id fun s => { s with isOpen := false }

/-- Reports an event on a session; says whether there was one that is listened to. None while there
is no room. -/
def deliver? (w : World) (id : SessionId) (e : SessionEvent) : Option (World × Bool) :=
  match w.session? id with
  | none => some (w, false)
  | some s =>
    let settle (events : List SessionEvent) :=
      w.modifySession id fun s => { s with events, isExpecting := false }
    if !s.isHeard then some (settle s.events, false)
    else if s.events.length < Session.capacity then some (settle (s.events ++ [e]), true)
    else none

/-- Ends the events of the open session of a url; says whether there was one. -/
def endEvents (w : World) (url : String) : World × Bool :=
  match w.current? url with
  | none => (w, false)
  | some s => (w.closeSession s.id, true)

/-- How a rule ends a call that would otherwise succeed. -/
def applyRule {α : Type} (r : BrokerRule) (url topic : String)
    (succeed : World → World × α) (w : World) : World × Except Fault (Except BrokerError α) :=
  match r.fault, r.failure with
  | some f, _ => (w, .error f)
  | none, some e => (w, .ok (.error (e.error url topic)))
  | none, none =>
    let (w, x) := succeed w
    (w, .ok (.ok x))

def lookupReply (w : World) (resource : String) : Except CatalogError (Option Source) :=
  match w.catalogRule.failLookup with
  | some "not_found" => .error (.notFound resource)
  | some reason => .error (.backend reason)
  | none => .ok (w.content.lookup resource)

def enumerateReply (w : World) (page perPage : Nat) : Except CatalogError (List Source × Nat) :=
  if w.catalogRule.failPage = some page then
    .error (.backend ("page " ++ toString page ++ " unavailable"))
  else .ok (w.content.enumerate page perPage w.catalogRule.total)

def submitReply (w : World) (rule : SinkRule) (batch : Batch) :
    World × Except StorageError Unit :=
  let w := w.note fun j => { j with stored := batch :: j.stored }
  match rule.fail with
  | some reason => (w, .error ⟨reason⟩)
  | none => ({ w with sink := w.sink.submit batch.points }, .ok ())

def begin (w : World) : (c : Call) → World × Attempt c
  | .connect feed =>
    let r := w.rule "connect" feed.url
    (w.noteCall (.connect feed.url feed.credentials),
      ⟨r.delay, applyRule r feed.url "" (·.openSession feed.url)⟩)
  | .subscribe id topic qos =>
    let r := w.rule "subscribe" topic
    (w.noteCall (.subscribe (w.urlOf id) topic qos),
      ⟨r.delay, applyRule r (w.urlOf id) topic fun w => (w, ())⟩)
  | .unsubscribe id topic =>
    let r := w.rule "unsubscribe" topic
    (w.noteCall (.unsubscribe (w.urlOf id) topic),
      ⟨r.delay, applyRule r (w.urlOf id) topic fun w => (w, ())⟩)
  | .disconnect id grace =>
    let r := w.rule "disconnect" (w.urlOf id)
    ((w.noteCall (.disconnect (w.urlOf id) grace)).closeSession id,
      ⟨r.delay, applyRule r (w.urlOf id) "" fun w => (w, ())⟩)
  | .enumerate page perPage =>
    (w.note fun j => { j with pages := (page, perPage) :: j.pages },
      ⟨0, fun v => (v, .ok (w.enumerateReply page perPage))⟩)
  | .lookup resource =>
    (w.note fun j => { j with lookups := resource :: j.lookups },
      ⟨w.catalogRule.lookupDelay, fun v => (v, .ok (w.lookupReply resource))⟩)
  | .submit batch =>
    (w, ⟨w.sinkRule.delay, fun v =>
      let (v, reply) := v.submitReply w.sinkRule batch
      (v, .ok reply)⟩)

end World

end SensorBridge.Scenario

import SensorBridge.Catalog.Observed
import SensorBridge.Scenario.Machine

/-!
Scenarios: a connector is started in a scripted world and led through steps. Every step is
reported with all that happened since the report before.
-/
namespace SensorBridge.Scenario

inductive Step where
  | register (feed : Feed)
  | unregister (feed : Feed)
  | retry
  | query (url topic id : String)
  | handle (key : SubscriptionKey) (payload : List UInt8)
  | cache (name : Option String)
  | notify (change : Change)
  | notifyAll (changes : List Change)
  | push (url : String) (event : SessionEvent)
  | endEvents (url : String)
  | advance (ms : Nat)
  | set (f : World → World)
  | setSource (s : Source)
  | removeSource (id : String)
  | points (id : String)
  | shutdown
  | drop
  | add (sources : List Source)
  | update (id : String) (s : Source)
  | delete (id : String)
  | inspect

inductive Result where
  | nothing
  | ok
  | stopped
  | panicked (f : Fault)
  | count (n : Nat)
  | flag (b : Bool)
  | id (id : String)
  | connectorError (e : ConnectorError)
  | messageError (e : MessageError)
  | catalogError (e : CatalogError)
  | outcome (o : Outcome)
  | view (receivers : Option Nat) (hasLink isPending : Bool)
  | cache (size : Nat) (generation : UInt64) (entry : Option Source)
  | ack (a : Ack)
  | acks (as : List Ack)
  | points (points : List Measurement) (total submissions : Nat)
  | catalog (c : Catalog)

structure Report where
  result : Result
  journal : Journal
  /-- None once the connector is stopped. -/
  state : Option Ledger

/-- A machine with the catalog's changes going to the connector. `created` counts the data sources
that were ever stored. -/
structure Stage where
  machine : Machine
  isObserved : Bool := false
  created : Nat := 0

namespace Stage

def world (g : Stage) : World := g.machine.world

def withWorld (g : Stage) (world : World) : Stage :=
  { g with machine := { g.machine with world } }

/-- Runs a routine; one that waits for ever yields nothing. -/
def run {α : Type} (g : Stage) (p : Routine α) (f : α → Result) : Result × Stage :=
  let (machine, result) := g.machine.perform p
  let g := { g with machine }
  match result with
  | some (.ok x) => (f x, g)
  | some (.error e) => (.panicked e, g)
  | none => (.nothing, g)

/-- Runs a routine on the connector, unless it is stopped. -/
def runHeld {α : Type} (g : Stage) (p : Routine α) (f : α → Result) : Result × Stage :=
  if g.machine.isHeld then g.run p f else (.stopped, g)

def ofUnit : Except ConnectorError Unit → Result
  | .ok () => .ok
  | .error e => .connectorError e

/-- Sends a change and waits for the answer. -/
def notify (change : Change) : Routine Ack := do
  match ← Routine.request (.send change) with
  | none => return .error .listenerClosed
  | some ticket => Routine.request (.answer ticket)

/-- Sends changes one after the other, then waits for all answers. -/
def notifyAll (changes : List Change) : Routine (List Ack) := do
  let tickets ← changes.mapM fun c => Routine.request (.send c)
  tickets.mapM fun
    | none => return .error .listenerClosed
    | some ticket => Routine.request (.answer ticket)

/-- The state of the connector as it stands when nobody changes it. -/
def snapshot : Routine Ledger :=
  Routine.holding .ledger Routine.ledger

/-- Sends a change to the connector if it observes the catalog. -/
def deliver (change : Change) (isObserved : Bool) : Routine (Except CatalogError Unit) := do
  if isObserved then return Catalog.afterDelivery [← notify change]
  else return .ok ()

def catalog? (g : Stage) : Option Catalog :=
  match g.world.content with
  | .catalog c => some c
  | .list _ => none

/-- Stores what a mutation of the catalog made and delivers its change. -/
def commit (g : Stage) (mutation : Except CatalogError (Catalog × Change)) (result : Result) :
    Result × Stage :=
  match mutation with
  | .error e => (.catalogError e, g)
  | .ok (c, change) =>
    (g.withWorld { g.world with content := .catalog c }).run (deliver change g.isObserved) fun
      | .ok () => result
      | .error e => .catalogError e

def addOne (g : Stage) (c : Catalog) (s : Source) : Result × Stage :=
  let id := ObservedCatalog.nthId (g.created + 1)
  match c.add id s with
  | .error e => (.catalogError e, g)
  | .ok made => { g with created := g.created + 1 }.commit (.ok made) (.id id)

/-- Adds data sources one after the other; the result is the last one. -/
def addAll (g : Stage) : List Source → Result → Result × Stage
  | [], last => (last, g)
  | s :: rest, _ =>
    match g.catalog? with
    | none => (.nothing, g)
    | some c =>
      let (result, g) := g.addOne c s
      addAll g rest result

def mutate (g : Stage) (f : Catalog → Except CatalogError (Catalog × Change)) : Result × Stage :=
  match g.catalog? with
  | none => (.nothing, g)
  | some c => g.commit (f c) .ok

/-- Gives the connector up; its links are dropped when its tasks are over. -/
def letGo (g : Stage) : Stage :=
  let m := { g.machine with isStopping := true, isHeld := false }.reap
  { g with machine := Machine.quiesce Machine.turns m.rouse }

def quiesce (g : Stage) : Stage :=
  { g with machine := Machine.quiesce Machine.turns g.machine.rouse }

def editList (g : Stage) (f : List Source → List Source) : Stage :=
  match g.world.content with
  | .list sources => g.withWorld { g.world with content := .list (f sources) }
  | .catalog _ => g

def perform (g : Stage) (step : Step) : Result × Stage :=
  let grace := g.machine.settings.grace
  match step with
  | .register feed => g.runHeld (Routine.holding .ledger (Routine.register grace feed)) ofUnit
  | .unregister feed => g.runHeld (Routine.holding .ledger (Routine.unregister grace feed)) ofUnit
  | .retry => g.runHeld (Routine.holding .ledger (Routine.sweep grace)) .count
  | .query url topic id => g.runHeld snapshot fun l =>
      .view (l.receivers? url topic) (l.link? url).isSome (l.isPending id)
  | .handle key payload => g.runHeld (Routine.handle g.machine.read key payload) fun
      | .ok o => .outcome o
      | .error e => .messageError e
  | .cache name =>
    let lookUp : Routine (Option Source) := match name with
      | some name => Routine.cached name
      | none => return none
    g.runHeld (do return (← lookUp, (← Routine.memory).cache)) fun (entry, c) =>
      .cache c.size c.generation entry
  | .notify change => g.run (notify change) .ack
  | .notifyAll changes => g.run (notifyAll changes) .acks
  | .push url event =>
    match g.world.current? url with
    | none => (.flag false, g)
    | some s => g.run (Routine.request (.deliver s.id event)) .flag
  | .endEvents url =>
    let (world, wasOpen) := g.world.endEvents url
    (.flag wasOpen, (g.withWorld world).quiesce)
  | .advance ms => g.run (Routine.request (.sleep ms)) fun _ => .nothing
  | .set f => (.nothing, g.withWorld (f g.world))
  | .setSource s => (.nothing, g.editList fun ss => ss.filter (·.id != s.id) ++ [s])
  | .removeSource id => (.nothing, g.editList fun ss => ss.filter (·.id != id))
  | .points id =>
    let sink := g.world.sink
    (.points (sink.points.get id) sink.points.count sink.submissions, g)
  | .shutdown =>
    let (result, g) := g.runHeld Routine.shutdown fun _ => .ok
    (result, g.letGo)
  | .drop => if g.machine.isHeld then (.ok, g.letGo) else (.stopped, g)
  | .add sources => g.addAll sources .nothing
  | .update id s => g.mutate (·.update id s)
  | .delete id => g.mutate (·.delete id)
  | .inspect => (g.catalog?.elim .nothing .catalog, g)

/-- Closes a report: starts a new journal, then notes the state of the connector. What happens until
the state can be read belongs to the next report. -/
def report (g : Stage) (result : Result) : Report × Stage :=
  let journal := g.world.journal
  let g := g.withWorld { g.world with journal := {} }
  if g.machine.isHeld then
    let (machine, state) := g.machine.perform snapshot
    ({ result, journal, state := state.bind (·.toOption) }, { g with machine })
  else ({ result, journal, state := none }, g)

def performAll (g : Stage) : List Step → List Report × Stage
  | [] => ([], g)
  | step :: rest =>
    let (result, g) := g.perform step
    let (report, g) := g.report result
    let (reports, g) := performAll g rest
    (report :: reports, g)

/-- Starts the connector: checks the settings, registers what the catalog holds, and sets the
lasting tasks to work. -/
def start (g : Stage) : Result × Stage :=
  let settings := g.machine.settings
  match settings.fault? with
  | some reason => (.connectorError (.configuration reason), g.letGo)
  | none =>
    let (machine, result) := g.machine.perform (Routine.replay settings)
    let g := { g with machine }
    match result with
    | some (.ok (.ok ())) =>
      let m := { g.machine with
        channel := { g.machine.channel with capacity := settings.channelCapacity, isOpen := true } }
      let m := (m.spawn .listener).spawn .retry
      (.ok, { g with machine := m, isObserved := true }.quiesce)
    | some (.ok (.error e)) => (.connectorError e, g.letGo)
    | some (.error f) => (.panicked f, g.letGo)
    | none => (.nothing, g.letGo)

end Stage

structure Setup where
  settings : ConnectorSettings := {}
  read : PayloadReader
  world : World := {}
  preparation : List Step := []

/-- The report on the start, and those on the steps; there are none if the start failed. The
connector is shut down in the end, and a fault in that or in the start leaves no report. -/
def run (setup : Setup) (steps : List Step) : Except Fault (Report × List Report) :=
  let machine : Machine :=
    { world := setup.world
      memory := { cache := { capacity := setup.settings.cacheSize } }
      settings := setup.settings
      read := setup.read }
  let prepared := setup.preparation.foldl (fun g step => (Stage.perform g step).2) { machine }
  let (result, g) := prepared.start
  let (first, g) := g.report result
  let (rest, g) := if g.machine.isHeld then g.performAll steps else ([], g)
  match result, (g.perform .shutdown).1 with
  | .panicked f, _ => .error f
  | _, .panicked f => .error f
  | _, _ => .ok (first, rest)

end SensorBridge.Scenario

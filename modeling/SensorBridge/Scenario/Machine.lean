import SensorBridge.Connector.Tasks
import SensorBridge.Scenario.World

/-!
The machine that runs the tasks of a connector in a scripted world. Tasks have their turns in the
order in which they came to be able to go on. Time stands still while one of them can, and jumps
to the next due point when all of them wait; then the step of the scenario comes first.
-/
namespace SensorBridge.Scenario

/-- A request under way: when it is due, and for a call what then happens. -/
structure Wait (r : Request) where
  due : Option Nat := none
  finish : Option (World → World × r.Answer) := none

inductive Status (α : Type) where
  | start (p : Routine α)
  | waiting (r : Request) (w : Wait r) (k : r.Answer → Routine α)

/-- The one who performs the step of a scenario has the number 0, tasks have higher ones. -/
abbrev TaskId : Type := Nat

structure Task where
  id : TaskId
  job : Job
  status : Status Bool
  /-- Whether it has its turn coming. -/
  isQueued : Bool := false

structure Held where
  lock : Lock
  owner : TaskId
  waiters : List TaskId := []
  deriving Repr

structure Channel where
  capacity : Nat := 1
  queue : List (Change × Ticket) := []
  isOpen : Bool := false
  issued : Nat := 0
  answers : List (Ticket × Ack) := []

structure Machine where
  world : World
  memory : Memory
  settings : ConnectorSettings
  read : PayloadReader
  /-- In the order of their last turns. -/
  tasks : List Task := []
  /-- The tasks that can go on, in the order of their turns. -/
  queue : List TaskId := []
  spawned : Nat := 0
  faults : List (Job × Fault) := []
  locks : List Held := []
  channel : Channel := {}
  clock : Nat := 0
  isStopping : Bool := false
  isHeld : Bool := true

namespace Machine

/-! ### Locks -/

def tryLock (m : Machine) (id : TaskId) (l : Lock) : Machine :=
  if m.locks.any (·.lock == l) then
    { m with locks := m.locks.map fun h =>
        if h.lock == l then { h with waiters := h.waiters ++ [id] } else h }
  else { m with locks := ⟨l, id, []⟩ :: m.locks }

def owns (m : Machine) (id : TaskId) (l : Lock) : Bool :=
  m.locks.any fun h => h.lock == l && h.owner == id

/-- A lock that is given up goes to the one who has waited longest. -/
def unlock (m : Machine) (l : Lock) : Machine :=
  { m with locks := m.locks.filterMap fun h =>
      if h.lock == l then
        match h.waiters with
        | [] => none
        | w :: ws => some ⟨l, w, ws⟩
      else some h }

/-! ### Tasks -/

/-- The endings of links are not queued: they are part of the step that ends the connector. -/
def isPartOfStep : Job → Bool
  | .closing _ => true
  | _ => false

def spawn (m : Machine) (job : Job) : Machine :=
  let id := m.spawned + 1
  { m with
    spawned := id
    tasks := m.tasks ++ [{ id, job, status := .start (Routine.ofJob m.settings (fun _ => m.read) job) }] }

def isRunning (m : Machine) (job : Job) : Bool :=
  m.tasks.any (·.job == job)

def unhear (m : Machine) (job : Job) : Machine :=
  match job with
  | .router _ session =>
    { m with world := m.world.modifySession session fun s => { s with isHeard := false } }
  | _ => m

def abort (m : Machine) (job : Job) : Machine :=
  if m.isRunning job then ({ m with tasks := m.tasks.filter (·.job != job) }).unhear job else m

def abortRouters (m : Machine) (links : List Link) : Machine :=
  links.foldl (fun m l => m.abort (.router l.url l.session)) m

/-- When nobody holds the connector and its lasting tasks are over, its links are dropped. -/
def reap (m : Machine) : Machine :=
  if m.isHeld || m.isRunning .listener || m.isRunning .retry then m
  else
    let links := m.memory.ledger.links
    { m.abortRouters links with
      memory := { m.memory with
        ledger := { m.memory.ledger with links := [] }
        retired := m.memory.retired ++ links } }

/-- No more changes are taken; those on their way are lost. -/
def closeChannel (m : Machine) : Machine :=
  { m with channel := { m.channel with
      isOpen := false
      queue := []
      answers := m.channel.answers ++ m.channel.queue.map fun c => (c.2, .error .ackLost) } }

def afterTask (m : Machine) (job : Job) : Machine :=
  match job with
  | .listener => m.closeChannel.reap
  | .retry => m.reap
  | job => m.unhear job

/-! ### Requests -/

def enter (m : Machine) (id : TaskId) : (r : Request) → Machine × Wait r
  | .call c =>
    let (world, attempt) := m.world.begin c
    ({ m with world }, { due := some (m.clock + attempt.delay), finish := some attempt.finish })
  | .acquire l => (m.tryLock id l, {})
  | .pause ms => (m, { due := some (m.clock + ms) })
  | .sleep ms => (m, { due := some (m.clock + ms) })
  | .join _ limit => (m, { due := limit.map (m.clock + ·) })
  | .deliver session _ =>
    ({ m with world := m.world.modifySession session ({ · with isExpecting := true }) }, {})
  | _ => (m, {})

def isDue (m : Machine) {r : Request} (w : Wait r) : Bool :=
  match w.due with
  | some due => due ≤ m.clock
  | none => false

/-- The next event of a session, if there is one or the session has ended. -/
def takeEvent (m : Machine) (session : SessionId) : Option (Machine × Option SessionEvent) :=
  match m.world.session? session with
  | none => some (m, none)
  | some s =>
    match s.events with
    | e :: es => some ({ m with world := m.world.modifySession session ({ · with events := es }) },
        some e)
    | [] => if s.isOver then some (m, none) else none

def takeChange (m : Machine) : Option (Machine × Option (Change × Ticket)) :=
  if m.isStopping then some (m, none)
  else match m.channel.queue with
    | c :: cs => some ({ m with channel := { m.channel with queue := cs } }, some c)
    | [] => none

def sendChange (m : Machine) (change : Change) : Option (Machine × Option Ticket) :=
  if !m.channel.isOpen then some (m, none)
  else if m.channel.queue.length < max m.channel.capacity 1 then
    let ticket := m.channel.issued
    some ({ m with channel := { m.channel with
      queue := m.channel.queue ++ [(change, ticket)], issued := ticket + 1 } }, some ticket)
  else none

/-- The answer to a request, if it can be given now. -/
def poll (m : Machine) (id : TaskId) : (r : Request) → Wait r → Option (Machine × r.Answer)
  | .call _, w =>
    if m.isDue w then
      match w.finish with
      | some finish =>
        let (world, reply) := finish m.world
        some ({ m with world }, reply)
      | none => none
    else none
  | .update f, _ => some ({ m with memory := f m.memory }, m.memory)
  | .acquire l, _ => if m.owns id l then some (m, ()) else none
  | .release l, _ => some (m.unlock l, ())
  | .spawn job, _ => some (m.spawn job, ())
  | .abort job, _ => some (m.abort job, ())
  | .join job _, w =>
    if m.isRunning job then
      if m.isDue w then some (m, .late) else none
    else
      match m.faults.lookup job with
      | some f => some (m, .faulted f)
      | none => some (m, .done)
  | .log entry, _ =>
    some ({ m with world := m.world.note fun j => { j with log := entry :: j.log } }, ())
  | .pause _, w =>
    if m.isStopping then some (m, true) else if m.isDue w then some (m, false) else none
  | .sleep _, w => if m.isDue w then some (m, ()) else none
  | .nextChange, _ => m.takeChange
  | .acknowledge ticket ack, _ =>
    some ({ m with channel := { m.channel with
      answers := (ticket, ack) :: m.channel.answers } }, ())
  | .nextEvent session, _ => m.takeEvent session
  | .deliver session e, _ =>
    (m.world.deliver? session e).map fun (world, taken) => ({ m with world }, taken)
  | .send change, _ => m.sendChange change
  | .answer ticket, _ => (m.channel.answers.lookup ticket).map fun ack => (m, ack)
  | .stop, _ => some ({ m with isStopping := true }, ())

/-! ### Turns -/

def canGoOn (m : Machine) (t : Task) : Bool :=
  match t.status with
  | .start _ => true
  | .waiting r w _ => (m.poll t.id r w).isSome

/-- Queues the tasks that have come to be able to go on. -/
def rouse (m : Machine) : Machine :=
  let isRoused (t : Task) : Bool := !t.isQueued && !isPartOfStep t.job && m.canGoOn t
  match m.tasks.filter isRoused with
  | [] => m
  | roused =>
    { m with
      queue := m.queue ++ roused.map (·.id)
      tasks := m.tasks.map fun t => if isRoused t then { t with isQueued := true } else t }

/-- Whether another task may be able to go on after a request. -/
def concernsOthers : Request → Bool
  | .call (.connect _) | .call (.disconnect ..) | .release _ | .spawn _ | .abort _
  | .acknowledge .. | .deliver .. | .send _ | .stop => true
  | _ => false

def rouseAfter (m : Machine) (r : Request) : Machine :=
  if concernsOthers r then m.rouse else m

/-- Runs a routine until it ends or has to wait. -/
def advance {α : Type} (id : TaskId) : Routine α → Machine → Machine × (Except Fault α ⊕ Status α)
  | .done x, m => (m, .inl (.ok x))
  | .fault f, m => (m, .inl (.error f))
  | .ask r k, m =>
    let (m, w) := m.enter id r
    match m.poll id r w with
    | some (m, a) => advance id (k a) (m.rouseAfter r)
    | none => (m.rouseAfter r, .inr (.waiting r w k))

def resume? {α : Type} (m : Machine) (id : TaskId) :
    Status α → Option (Machine × (Except Fault α ⊕ Status α))
  | .start p => some (advance id p m)
  | .waiting r w k =>
    match m.poll id r w with
    | some (m, a) => some (advance id (k a) (m.rouseAfter r))
    | none => none

/-- Gives up the links that are being ended, since ending one of them went wrong. -/
def abandonClosings (m : Machine) : Machine :=
  m.tasks.foldl (fun m t =>
    match t.job with
    | .closing l => (m.abort t.job).abort (.router l.url l.session)
    | _ => m) m

def afterFault (m : Machine) (job : Job) (f : Fault) : Machine :=
  let m := { m with faults := (job, f) :: m.faults }.afterTask job
  match job with
  | .closing _ => m.abandonClosings
  | _ => m

/-- Puts a task back after a turn, or ends it. A routine that asks for another round goes on at
once. -/
def settleTask (m : Machine) (t : Task) : Except Fault Bool ⊕ Status Bool → Machine
  | .inr status => { m with tasks := m.tasks ++ [{ t with status, isQueued := false }] }
  | .inl (.ok true) =>
    let status := .start (Routine.ofJob m.settings (fun _ => m.read) t.job)
    { m with
      queue := t.id :: m.queue
      tasks := m.tasks ++ [{ t with status, isQueued := true }] }
  | .inl (.ok false) => m.afterTask t.job
  | .inl (.error f) => m.afterFault t.job f

def giveTurn (m : Machine) (t : Task) : Machine :=
  let others (m : Machine) : Machine := { m with tasks := m.tasks.filter (·.id != t.id) }
  match m.resume? t.id t.status with
  | some (m, result) => ((others m).settleTask t result).rouse
  | none => (others m).settleTask t (.inr t.status)

/-- The turn of the first task of the queue. A task that was aborted meanwhile has none. -/
def turn? (m : Machine) : Option Machine :=
  match m.queue with
  | [] => none
  | id :: queue =>
    let m := { m with queue }
    some ((m.tasks.find? (·.id == id)).elim m m.giveTurn)

/-- The turn of the first ending of a link that can go on. -/
def closingTurn? (m : Machine) : Option Machine :=
  (m.tasks.find? fun t => isPartOfStep t.job && m.canGoOn t).map m.giveTurn

def Status.due {α : Type} : Status α → Option Nat
  | .start _ => none
  | .waiting _ w _ => w.due

/-- The next point in time at which something is due. -/
def nextDue (m : Machine) (dues : List (Option Nat)) : Option Nat :=
  ((m.tasks.map fun t => Status.due t.status) ++ dues).filterMap id |>.min?

def quiesce : Nat → Machine → Machine
  | 0, m => m
  | fuel + 1, m =>
    match m.turn? with
    | some m => quiesce fuel m
    | none => m

def turns : Nat := 1000000000000

/-- Runs a routine to its end. It goes first, then all tasks that can go on, and so forth. None if
it waits for ever. -/
def complete {α : Type} : Nat → Status α → Machine → Machine × Option (Except Fault α)
  | 0, _, m => (m, none)
  | fuel + 1, s, m =>
    match m.closingTurn? with
    | some m => complete fuel s m
    | none =>
      match m.resume? 0 s with
      | some (m, .inl result) => (m, some result)
      | some (m, .inr s) => complete fuel s m
      | none =>
        if !m.queue.isEmpty then complete fuel s (quiesce turns m)
        else match m.nextDue [Status.due s] with
          | some due => complete fuel s { m with clock := max m.clock due }.rouse
          | none => (m, none)

/-- Runs a routine to its end and then lets the tasks run until none can go on. -/
def perform {α : Type} (m : Machine) (p : Routine α) : Machine × Option (Except Fault α) :=
  let (m, result) := complete turns (.start p) m
  (quiesce turns m, result)

end Machine

end SensorBridge.Scenario

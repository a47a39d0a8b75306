import Mathlib.Logic.Function.Basic
import Mathlib.Logic.Relation
import SensorBridge.Proofs.Nesting
import SensorBridge.Scenario.Run

/-!
A connector at work: its two lasting tasks, those who send changes to it, and a shutdown, in any order.
Whatever other tasks do to the memory and the locks comes in between, calls end in any way, faults
included, and the tasks leave a trace of what they do.
-/
namespace SensorBridge

/-- The lasting tasks of a connector. -/
inductive Lasting where
  | listener
  | retry
  deriving DecidableEq, Repr

def Lasting.routine (settings : ConnectorSettings) : Lasting → Routine Bool
  | .listener => Routine.listen settings.grace
  | .retry => Routine.retryOnce settings

/-- What a lasting task is seen to do. -/
inductive Deed where
  | took (change : Change) (ticket : Ticket)
  /-- It takes the ledger, as that stands. -/
  | locked (g : Ledger)
  | called (x : Exchange)
  /-- It gives the ledger back, as that stands. -/
  | unlocked (g : Ledger)
  | acknowledged (ticket : Ticket) (ack : Ack)

inductive Progress where
  | active (rest : Routine Bool)
  | ended
  | failed (f : Fault)

/-- A routine that wants another round begins again. -/
def Progress.after (again : Routine Bool) : Routine Bool → Progress
  | .done true => active again
  | .done false => ended
  | .fault f => failed f
  | .ask r k => active (.ask r k)

def Progress.isOver : Progress → Bool
  | active _ => false
  | ended | failed _ => true

structure Station where
  progress : Progress
  /-- The locks that the task holds, the latest first. -/
  held : List Lock := []
  deeds : List Deed := []

/-- Someone who sends a change and waits for the answer. -/
structure Notifier where
  change : Change
  rest : Routine Ack
  /-- The number of the change, once it is in the channel. -/
  ticket : Option Ticket := none

/-- No more changes are taken; those on their way are lost. -/
def Scenario.Channel.closed (c : Channel) : Channel :=
  { c with
    isOpen := false
    queue := []
    answers := c.answers ++ c.queue.map fun e => (e.2, .error .ackLost) }

structure Service where
  memory : Memory
  stations : Lasting → Station
  /-- Locks that other tasks hold. -/
  others : List Lock := []
  channel : Scenario.Channel
  notifiers : List Notifier := []
  /-- The changes that came into the channel, in order. -/
  entered : List (Change × Ticket) := []
  isStopping : Bool := false
  /-- Nobody is left who could send a change. -/
  isDeserted : Bool := false

namespace Service

variable (σ : Service)

def IsFree (l : Lock) : Prop :=
  (∀ who, l ∉ (σ.stations who).held) ∧ l ∉ σ.others

def setStation (who : Lasting) (s : Station) : Service :=
  { σ with stations := Function.update σ.stations who s }

variable {σ} in
theorem stations_setStation {who who' : Lasting} {s : Station} :
    (σ.setStation who s).stations who' = if who' = who then s else σ.stations who' :=
  Function.update_apply ..

def seen (who : Lasting) (deeds : List Deed) : Service :=
  let s := σ.stations who
  σ.setStation who ⟨s.progress, s.held, s.deeds ++ deeds⟩

def locking (who : Lasting) (l : Lock) : Service :=
  let s := σ.stations who
  let deeds := if l = .ledger then [.locked σ.memory.ledger] else []
  σ.setStation who ⟨s.progress, l :: s.held, s.deeds ++ deeds⟩

def unlocking (who : Lasting) (l : Lock) : Service :=
  let s := σ.stations who
  let deeds := if l = .ledger then [.unlocked σ.memory.ledger] else []
  σ.setStation who ⟨s.progress, s.held.erase l, s.deeds ++ deeds⟩

/-- The task goes on; the channel is closed when the listener ends. -/
def proceed (settings : ConnectorSettings) (who : Lasting) (rest : Routine Bool) : Service :=
  let progress := Progress.after (who.routine settings) rest
  { σ.setStation who ⟨progress, (σ.stations who).held, (σ.stations who).deeds⟩ with
    channel := if who = .listener ∧ progress.isOver then σ.channel.closed else σ.channel }

/-- A request of a task is answered. Calls may end in any way. The channel belongs to the listener. -/
inductive Answers : Lasting → (r : Request) → r.Answer → Service → Prop where
  | call {who : Lasting} {c : Call} (reply : Except Fault c.Reply) :
      Answers who (.call c) reply (σ.seen who [.called ⟨c, reply⟩])
  | update {who : Lasting} {f : Memory → Memory} :
      Answers who (.update f) σ.memory { σ with memory := f σ.memory }
  | acquire {who : Lasting} {l : Lock} : σ.IsFree l → Answers who (.acquire l) () (σ.locking who l)
  | release {who : Lasting} {l : Lock} : Answers who (.release l) () (σ.unlocking who l)
  | spawn {who : Lasting} {job : Job} : Answers who (.spawn job) () σ
  | abort {who : Lasting} {job : Job} : Answers who (.abort job) () σ
  | join {who : Lasting} {job : Job} {limit : Option Nat} (joined : Joined) :
      Answers who (.join job limit) joined σ
  | log {who : Lasting} {entry : LogEntry} : Answers who (.log entry) () σ
  /-- A stop comes before the end of a pause. -/
  | pause {who : Lasting} {ms : Nat} : Answers who (.pause ms) σ.isStopping σ
  /-- A stop comes before the next change. -/
  | stopped : (σ.isStopping ∨ σ.channel.queue = [] ∧ σ.isDeserted) →
      Answers .listener .nextChange none σ
  | nextChange {change : Change} {ticket : Ticket} {queue : List (Change × Ticket)} :
      σ.isStopping = false → σ.channel.queue = (change, ticket) :: queue →
      Answers .listener .nextChange (some (change, ticket))
        { σ.seen .listener [.took change ticket] with channel := { σ.channel with queue } }
  | acknowledge {ticket : Ticket} {ack : Ack} : Answers .listener (.acknowledge ticket ack) ()
      { σ.seen .listener [.acknowledged ticket ack] with
        channel := { σ.channel with answers := (ticket, ack) :: σ.channel.answers } }

section Answering

variable {σ} {τ : Service} {settings : ConnectorSettings} {who who' : Lasting} {r : Request} {a : r.Answer}
  {rest : Routine Bool}

theorem stations_proceed : (σ.proceed settings who rest).stations who' = if who' = who then
    ⟨Progress.after (who.routine settings) rest, (σ.stations who).held, (σ.stations who).deeds⟩
      else σ.stations who' :=
  stations_setStation

theorem Answers.elsewhere (h : σ.Answers who r a τ) (hne : who' ≠ who) :
    τ.stations who' = σ.stations who' := by
  cases h with
  | call | acquire | release | nextChange | acknowledge => exact Function.update_of_ne hne _ _
  | _ => rfl

/-- A lock that was taken was free. -/
theorem Answers.mem_held (h : σ.Answers who r a τ) {l : Lock} (hl : l ∈ (τ.stations who).held) :
    l ∈ (σ.stations who).held ∨ σ.IsFree l := by
  cases h with
  | call | nextChange | acknowledge =>
    rw [seen, setStation] at hl
    dsimp only at hl
    rw [Function.update_self] at hl
    exact .inl hl
  | acquire hfree =>
    rw [locking, stations_setStation, if_pos rfl] at hl
    obtain rfl | hl := List.mem_cons.mp hl
    · exact .inr hfree
    · exact .inl hl
  | release =>
    rw [unlocking, stations_setStation, if_pos rfl] at hl
    exact .inl (List.mem_of_mem_erase hl)
  | _ => exact .inl hl

theorem Answers.memory (h : σ.Answers who r a τ) : τ.memory = σ.memory ∨ ∃ f, r = .update f := by
  cases h with
  | update => exact .inr ⟨_, rfl⟩
  | _ => exact .inl rfl

/-- The rest stays as it is. -/
theorem Answers.frame (h : σ.Answers who r a τ) : τ.entered = σ.entered ∧ τ.notifiers = σ.notifiers ∧
    τ.isStopping = σ.isStopping ∧ τ.isDeserted = σ.isDeserted := by
  cases h <;> exact ⟨rfl, rfl, rfl, rfl⟩

theorem exists_answer (who : Lasting) (h : r.Calm ∨ (∃ c, r = .call c) ∨ ∃ l, r = .release l) :
    ∃ a τ, σ.Answers who r a τ := by
  obtain hr | ⟨c, rfl⟩ | ⟨l, rfl⟩ := h
  · cases r with
    | update => exact ⟨_, _, .update⟩
    | spawn => exact ⟨_, _, .spawn⟩
    | abort => exact ⟨_, _, .abort⟩
    | join => exact ⟨_, _, .join .done⟩
    | log => exact ⟨_, _, .log⟩
    | _ => exact hr.elim
  · exact ⟨_, _, .call (.error ⟨none⟩)⟩
  · exact ⟨_, _, .release⟩

end Answering

def setNotifier (i : Nat) (n : Notifier) : Service :=
  { σ with notifiers := σ.notifiers.set i n }

/-- What can happen, in any order. -/
inductive Step (settings : ConnectorSettings) : Service → Prop where
  | serve (who : Lasting) {r : Request} {k : r.Answer → Routine Bool} {a : r.Answer} {τ : Service} :
      (σ.stations who).progress = .active (.ask r k) → σ.Answers who r a τ →
      Step settings (τ.proceed settings who (k a))
  /-- Other tasks change the memory. One who holds the ledger has it for itself. -/
  | interfere {memory : Memory} :
      (∀ who, .ledger ∈ (σ.stations who).held → memory.ledger = σ.memory.ledger) →
      Step settings { σ with memory }
  | lock {l : Lock} : σ.IsFree l → Step settings { σ with others := l :: σ.others }
  | unlock {l : Lock} : Step settings { σ with others := σ.others.erase l }
  | stop : Step settings { σ with isStopping := true }
  | notify (change : Change) : σ.isDeserted = false →
      Step settings { σ with notifiers := σ.notifiers ++ [⟨change, Scenario.Stage.notify change, none⟩] }
  | send {i : Nat} {n : Notifier} {change : Change}
      {k : (Request.send change).Answer → Routine Ack} :
      σ.notifiers[i]? = some n → n.rest = .ask (.send change) k → σ.channel.isOpen →
      σ.channel.queue.length < max σ.channel.capacity 1 →
      Step settings { σ.setNotifier i ⟨n.change, k (some σ.channel.issued), some σ.channel.issued⟩ with
        entered := σ.entered ++ [(change, σ.channel.issued)]
        channel := { σ.channel with
          queue := σ.channel.queue ++ [(change, σ.channel.issued)]
          issued := σ.channel.issued + 1 } }
  | sendClosed {i : Nat} {n : Notifier} {change : Change}
      {k : (Request.send change).Answer → Routine Ack} :
      σ.notifiers[i]? = some n → n.rest = .ask (.send change) k → σ.channel.isOpen = false →
      Step settings (σ.setNotifier i ⟨n.change, k none, n.ticket⟩)
  | answer {i : Nat} {n : Notifier} {ticket : Ticket} {k : (Request.answer ticket).Answer → Routine Ack}
      {ack : Ack} :
      σ.notifiers[i]? = some n → n.rest = .ask (.answer ticket) k →
      σ.channel.answers.lookup ticket = some ack →
      Step settings (σ.setNotifier i ⟨n.change, k ack, n.ticket⟩)
  /-- All who could send a change have gone. -/
  | desert : (∀ n ∈ σ.notifiers, ∃ ack, n.rest = .done ack) → Step settings { σ with isDeserted := true }

section Running

open Scenario

variable {σ} {m m' : Machine} {settings : ConnectorSettings}

/-- A running machine gives out changes like this. -/
theorem exists_answers_of_takeChange {taken : Option (Change × Ticket)}
    (hchannel : σ.channel = m.channel) (hstop : σ.isStopping = m.isStopping)
    (h : m.takeChange = some (m', taken)) :
    ∃ τ, σ.Answers .listener .nextChange taken τ ∧ τ.channel = m'.channel := by
  rw [Machine.takeChange] at h
  cases hm : m.isStopping with
  | true =>
    rw [if_pos hm] at h
    cases h
    exact ⟨σ, .stopped (.inl (hstop.trans hm)), hchannel⟩
  | false =>
    rw [if_neg (by simp [hm])] at h
    cases hqueue : m.channel.queue with
    | nil =>
      rw [hqueue] at h
      cases h
    | cons e queue =>
      rw [hqueue] at h
      cases h
      refine ⟨_, .nextChange (hstop.trans hm) (hchannel ▸ hqueue), ?_⟩
      rw [hchannel]

/-- A running machine takes changes in like this. -/
theorem exists_step_of_sendChange {i : Nat} {n : Notifier} {change : Change} {ticket : Option Ticket}
    {k : Option Ticket → Routine Ack} (hchannel : σ.channel = m.channel)
    (hn : σ.notifiers[i]? = some n) (hrest : n.rest = .ask (.send change) k)
    (h : m.sendChange change = some (m', ticket)) :
    ∃ τ n', σ.Step settings τ ∧ τ.channel = m'.channel ∧ τ.notifiers = σ.notifiers.set i n' ∧
      n'.rest = k ticket := by
  rw [Machine.sendChange] at h
  cases hm : m.channel.isOpen with
  | false =>
    rw [if_pos (by simp [hm])] at h
    cases h
    exact ⟨_, _, .sendClosed hn hrest (hchannel ▸ hm), hchannel, rfl, rfl⟩
  | true =>
    rw [if_neg (by simp [hm])] at h
    split at h
    · rename_i hroom
      cases h
      refine ⟨_, _, .send hn hrest (hchannel ▸ hm) (hchannel ▸ hroom), ?_, rfl, ?_⟩
      · rw [hchannel]
      · rw [hchannel]
    · cases h

end Running

/-- The connector has just started its lasting tasks. -/
def begun (settings : ConnectorSettings) (memory : Memory) (capacity : Nat) : Service where
  memory
  stations who := { progress := .active (who.routine settings) }
  channel := { capacity, isOpen := true }

def Reachable (settings : ConnectorSettings) (σ : Service) : Prop :=
  ∃ memory capacity, Relation.ReflTransGen (Step · settings) (begun settings memory capacity) σ

end Service

end SensorBridge

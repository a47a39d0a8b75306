/-!
Requests that wait for their acknowledgment. Requests leave in the order in which they are made,
so the next packet that is sent belongs to the waiter queued first; from then on its packet id
tells which acknowledgment is the waiter's.
-/
namespace SensorBridge.Mqtt

abbrev PacketId : Type := UInt16

/-- Waiters are numbered in the order of their requests. -/
abbrev Waiter : Type := Nat

inductive RequestKind where
  | subscribe
  | unsubscribe
  deriving DecidableEq, Repr

inductive Outcome where
  | accepted
  | refused (reason : String)
  /-- Nobody is left who could answer. -/
  | abandoned
  deriving DecidableEq, Repr

abbrev Settled : Type := List (Waiter × Outcome)

/-- The waiters for one kind of acknowledgment: those whose packet is not sent yet, in order, and
those whose packet is under way. -/
structure AckQueue where
  queued : List Waiter := []
  inFlight : List (PacketId × Waiter) := []
  deriving DecidableEq, Repr, Inhabited

namespace AckQueue

def enqueue (w : Waiter) (q : AckQueue) : AckQueue :=
  { q with queued := q.queued ++ [w] }

/-- The waiters of the packets with an id. -/
def holders (id : PacketId) (q : AckQueue) : List Waiter :=
  (q.inFlight.filter (·.1 == id)).map (·.2)

/-- The packets under way but for those with an id. -/
def others (id : PacketId) (q : AckQueue) : List (PacketId × Waiter) :=
  q.inFlight.filter (·.1 != id)

/-- A packet was sent: the first waiter takes its id, also from one who still holds it. -/
def assign (id : PacketId) (q : AckQueue) : AckQueue × Settled :=
  match q.queued with
  | [] => (q, [])
  | w :: rest => (⟨rest, (id, w) :: q.others id⟩, (q.holders id).map (·, .abandoned))

/-- An acknowledgment came: it settles the waiter who holds its id. -/
def complete (id : PacketId) (outcome : Outcome) (q : AckQueue) : AckQueue × Settled :=
  ({ q with inFlight := q.others id }, (q.holders id).map (·, outcome))

/-- The connection is lost: no packet under way will be acknowledged. -/
def failInFlight (reason : String) (q : AckQueue) : AckQueue × Settled :=
  ({ q with inFlight := [] },
    q.inFlight.map fun e => (e.2, .refused ("connection lost: " ++ reason)))

def waiters (q : AckQueue) : List Waiter :=
  q.inFlight.map (·.2) ++ q.queued

end AckQueue

structure AckTracker where
  subscribe : AckQueue := {}
  unsubscribe : AckQueue := {}
  closed : Bool := false
  deriving DecidableEq, Repr, Inhabited

namespace AckTracker

def queue (kind : RequestKind) (t : AckTracker) : AckQueue :=
  match kind with
  | .subscribe => t.subscribe
  | .unsubscribe => t.unsubscribe

def setQueue (kind : RequestKind) (q : AckQueue) (t : AckTracker) : AckTracker :=
  match kind with
  | .subscribe => { t with subscribe := q }
  | .unsubscribe => { t with unsubscribe := q }

/-- Applies a step to the waiters of one kind. -/
def onQueue (kind : RequestKind) (step : AckQueue → AckQueue × Settled) (t : AckTracker) :
    AckTracker × Settled :=
  let (q, settled) := step (t.queue kind)
  (t.setQueue kind q, settled)

def enqueue (kind : RequestKind) (w : Waiter) (t : AckTracker) : AckTracker :=
  t.setQueue kind ((t.queue kind).enqueue w)

def assign (kind : RequestKind) (id : PacketId) (t : AckTracker) : AckTracker × Settled :=
  t.onQueue kind (·.assign id)

def complete (kind : RequestKind) (id : PacketId) (outcome : Outcome) (t : AckTracker) :
    AckTracker × Settled :=
  t.onQueue kind (·.complete id outcome)

def failInFlight (reason : String) (t : AckTracker) : AckTracker × Settled :=
  let (s, ss) := t.subscribe.failInFlight reason
  let (u, us) := t.unsubscribe.failInFlight reason
  ({ t with subscribe := s, unsubscribe := u }, ss ++ us)

/-- Abandons all who wait; nobody is taken any more. -/
def close (t : AckTracker) : AckTracker × Settled :=
  ({ closed := true },
    (t.subscribe.waiters ++ t.unsubscribe.waiters).map (·, .abandoned))

end AckTracker

end SensorBridge.Mqtt

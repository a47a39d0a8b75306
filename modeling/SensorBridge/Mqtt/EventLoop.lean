import SensorBridge.Broker
import SensorBridge.Mqtt.Acks

/-!
The loop that drives a connection. Each result of the connection settles waiters, reports events
or makes the loop pause before it connects again; only a disconnect of our own ends it.
-/
namespace SensorBridge.Mqtt

/-- What the connection gives when it is asked for its next result. -/
inductive Polled where
  | connAck (code : ReturnCode) (sessionPresent : Bool)
  | publish (m : Message)
  /-- One entry per subscribed filter: the level granted, or none for a refusal. -/
  | subAck (id : PacketId) (granted : List (Option Qos))
  | unsubAck (id : PacketId)
  /-- The broker says that it will close the connection. -/
  | disconnect
  | sent (kind : RequestKind) (id : PacketId)
  | sentDisconnect
  | other
  | failed (reason : String)
  deriving DecidableEq, Repr

inductive Effect where
  | report (e : SessionEvent)
  | settle (w : Waiter) (outcome : Outcome)
  | pause (millis : Nat)
  deriving DecidableEq, Repr

def Effect.ofSettled (settled : Settled) : List Effect :=
  settled.map fun (w, outcome) => .settle w outcome

/-- The loop between two results. `errors` counts the failures since the connection last worked. -/
structure EventLoop where
  errors : Nat := 0
  acks : AckTracker := {}
  ended : Bool := false
  deriving DecidableEq, Repr, Inhabited

namespace EventLoop

def maxErrors : Nat := UInt32.size - 1

/-- The pause after the `n`-th failure in a row: it doubles from a tenth of a second, ten times at
most and never above the bound. -/
def retryDelay (maxDelay n : Nat) : Nat :=
  min (100 * Nat.pow 2 (min (n - 1) 10)) maxDelay

def brokerDisconnect : String := "server sent DISCONNECT"

/-- The answer to a subscription: one refused filter refuses it. -/
def grant (granted : List (Option Qos)) : Outcome :=
  if granted.contains none then .refused "broker refused subscription" else .accepted

def onAcks (step : AckTracker → AckTracker × Settled) (l : EventLoop) : EventLoop × List Effect :=
  let (acks, settled) := step l.acks
  ({ l with acks }, Effect.ofSettled settled)

/-- The connection is lost: the waiters under way learn it, and then the listener. -/
def lose (reason : String) (l : EventLoop) : EventLoop × List Effect :=
  let (l, effects) := l.onAcks (·.failInFlight reason)
  (l, effects ++ [.report (.lost reason)])

/-- One round of the loop. A loss is reported with the first failure only. -/
def step (maxDelay : Nat) (l : EventLoop) (polled : Polled) : EventLoop × List Effect :=
  if l.ended then (l, [])
  else match polled with
    | .connAck .success sessionPresent =>
      ({ l with errors := 0 }, [.report (.connected sessionPresent)])
    | .publish m => ({ l with errors := 0 }, [.report (.message m)])
    | .subAck id granted => l.onAcks (·.complete .subscribe id (grant granted))
    | .unsubAck id => l.onAcks (·.complete .unsubscribe id .accepted)
    | .sent kind id => l.onAcks (·.assign kind id)
    | .disconnect =>
      let (l, effects) := l.lose brokerDisconnect
      ({ l with errors := 1 }, effects)
    | .sentDisconnect =>
      let (l, effects) := l.onAcks (·.close)
      ({ l with ended := true }, effects)
    | .connAck _ _ | .other => ({ l with errors := 0 }, [])
    | .failed reason =>
      let errors := min (l.errors + 1) maxErrors
      let l := { l with errors }
      let (l, effects) := if errors = 1 then l.lose reason else (l, [])
      (l, effects ++ [.pause (retryDelay maxDelay errors)])

def run (maxDelay : Nat) : EventLoop → List Polled → EventLoop × List Effect
  | l, [] => (l, [])
  | l, polled :: rest =>
    let (l, effects) := l.step maxDelay polled
    let (l, more) := run maxDelay l rest
    (l, effects ++ more)

end EventLoop

end SensorBridge.Mqtt

import SensorBridge.Change

/-!
Observers of the catalog. A broadcast hands a change to every observer that listens and collects
the failures in the order of the observers; one that has gone is passed over.
-/
namespace SensorBridge

inductive Answer where
  | ack (result : Ack)
  | drop
  /-- Does not answer and stops to listen. -/
  | close

def Answer.result : Answer → Ack
  | ack r => r
  | drop => .error .ackLost
  | close => .error .ackLost

/-- An observer by the answers it will give; the last one is given again and again. One without
answers does not listen. -/
structure Observer where
  answers : List Answer
  deriving Inhabited

namespace Observer

def isClosed (o : Observer) : Bool :=
  o.answers.isEmpty

/-- Offers a change: the answer if it was taken, and the observer afterwards. -/
def offer (o : Observer) : Option Answer × Observer :=
  match o.answers with
  | [] => (none, o)
  | .close :: _ => (some .close, ⟨[]⟩)
  | [a] => (some a, o)
  | a :: rest => (some a, ⟨rest⟩)

/-- Sends a change and waits for the acknowledgment. The middle component says whether the change
was handed over. -/
def notify (o : Observer) : Ack × Bool × Observer :=
  match o.offer with
  | (none, o) => (.error .listenerClosed, false, o)
  | (some a, o) => (a.result, true, o)

end Observer

/-- The failures among the results of a broadcast; an observer that has gone is none. -/
def failures (results : List Ack) : List AckError :=
  results.filterMap fun
    | .ok () => none
    | .error .listenerClosed => none
    | .error e => some e

/-- Sends a change to each observer. Returns what they answered and the observers afterwards, both
in their order. -/
def broadcast (observers : List Observer) : List (Ack × Bool) × List Observer :=
  let sent := observers.map Observer.notify
  (sent.map fun (r, taken, _) => (r, taken), sent.map fun (_, _, o) => o)

end SensorBridge

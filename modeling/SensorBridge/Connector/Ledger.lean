import SensorBridge.Broker
import SensorBridge.Topic

/-!
The ledger of a connector: one link per broker url, with the topics subscribed on it and how many
data sources receive each, and the registrations that failed and wait for another attempt.
-/
namespace SensorBridge

/-- One subscription at the broker, shared by `receivers` data sources. -/
structure Subscription where
  topic : String
  qos : Qos
  receivers : Nat
  deriving DecidableEq, Repr, Inhabited

/-- The connection to one broker url. A subscription is known by this url and its topic. -/
structure Link where
  url : String
  session : SessionId
  table : List Subscription := []
  deriving DecidableEq, Repr, Inhabited

namespace Link

def find? (l : Link) (topic : String) : Option Subscription :=
  l.table.find? (·.topic == topic)

/-- Tracks a subscription that the broker has acknowledged, for a first receiver. -/
def track (l : Link) (topic : String) (qos : Qos) : Link :=
  { l with table := l.table.filter (·.topic != topic) ++ [⟨topic, qos, 1⟩] }

def increment (l : Link) (topic : String) : Link :=
  { l with table := l.table.map fun s =>
      if s.topic == topic then { s with receivers := s.receivers + 1 } else s }

/-- One receiver less for a topic; a topic without receivers is no longer tracked. -/
def decrement (l : Link) (topic : String) : Link :=
  { l with table := l.table.filterMap fun s =>
      if s.topic == topic then
        if s.receivers ≤ 1 then none else some { s with receivers := s.receivers - 1 }
      else some s }

def covering (l : Link) (topic : String) : List String :=
  (l.table.map (·.topic)).filter fun filter => Topic.accepts filter topic

end Link

/-- Links by url, and the feeds of failed registrations by the ids of their data sources, in
ascending order. -/
structure Ledger where
  links : List Link := []
  pending : List (String × Feed) := []
  deriving DecidableEq, Repr, Inhabited

namespace Ledger

def link? (g : Ledger) (url : String) : Option Link :=
  g.links.find? (·.url == url)

def receivers? (g : Ledger) (url topic : String) : Option Nat :=
  ((g.link? url).bind fun l => l.find? topic).map (·.receivers)

def modify (g : Ledger) (url : String) (f : Link → Link) : Ledger :=
  { g with links := g.links.map fun l => if l.url == url then f l else l }

def insert (g : Ledger) (l : Link) : Ledger :=
  { g with links := g.links.filter (·.url != l.url) ++ [l] }

def erase (g : Ledger) (url : String) : Ledger :=
  { g with links := g.links.filter (·.url != url) }

/-- Puts an id and its feed at their place, instead of an older feed. -/
def enqueue (id : String) (feed : Feed) : List (String × Feed) → List (String × Feed)
  | [] => [(id, feed)]
  | (k, f) :: rest =>
    if k == id then (id, feed) :: rest
    else if id < k then (id, feed) :: (k, f) :: rest
    else (k, f) :: enqueue id feed rest

def postpone (g : Ledger) (id : String) (feed : Feed) : Ledger :=
  { g with pending := enqueue id feed g.pending }

def isPending (g : Ledger) (id : String) : Bool :=
  g.pending.any (·.1 == id)

def settle (g : Ledger) (id : String) : Ledger :=
  { g with pending := g.pending.filter (·.1 != id) }

end Ledger

end SensorBridge

import SensorBridge.Mqtt.EventLoop
import SensorBridge.Mqtt.Options
import SensorBridge.Topic

/-!
A session with a broker: how it is opened, the requests made on it, and how they end.
-/
namespace SensorBridge.Mqtt

inductive ConnectFault where
  | broker (e : BrokerError)
  | misuse (m : Misuse)
  deriving DecidableEq, Repr

/-- A request that the client has taken and not sent yet. -/
inductive Request where
  | acknowledged (kind : RequestKind) (topic : String)
  | disconnect
  deriving DecidableEq, Repr

structure Session where
  url : String
  /-- How many requests may wait to be sent. -/
  capacity : Nat
  operationTimeout : Nat
  maxReconnectDelay : Nat
  unsent : List Request := []
  loop : EventLoop := {}
  next : Waiter := 0
  /-- Whether the end of the session was asked for. -/
  leaving : Bool := false
  deriving DecidableEq, Repr

namespace Session

/-- Waits for the first answer to a connection. What comes after it is left to the session. -/
def establish (url : String) (timeout : Nat) : List Polled → Except BrokerError (List Polled)
  | [] => .error (.timeout url "connect" timeout)
  | .connAck .success _ :: rest => .ok rest
  | .connAck code _ :: _ => .error (.rejected url code)
  | .failed reason :: _ => .error (.connect url reason)
  | _ :: rest => establish url timeout rest

/-- Opens a session for a feed. `polled` is what the connection gives until the time is up. -/
def connect (settings : BrokerSettings) (unique : String) (feed : Feed) (polled : List Polled) :
    Except ConnectFault (Session × List Polled) :=
  match Options.ofFeed settings unique feed with
  | .error (.url fault) => .error (.broker (.invalidUrl feed.url fault))
  | .error (.misuse m) => .error (.misuse m)
  | .ok _ =>
    match establish feed.url settings.connectionTimeout polled with
    | .error e => .error (.broker e)
    | .ok rest =>
      .ok ({ url := feed.url, capacity := settings.requestCapacity,
             operationTimeout := settings.operationTimeout,
             maxReconnectDelay := settings.maxReconnectDelay }, rest)

/-- The filters that the client sends: their wildcards stand alone and `#` comes last. -/
def takesFilter (topic : String) : Bool :=
  !topic.isEmpty && (Topic.levelFault? topic (Topic.levels topic)).isNone

/-- What the client says of a request that it does not take. -/
def notTaken : BrokerError :=
  .client "Failed to send mqtt requests to eventloop"

def hasRoom (s : Session) : Bool :=
  s.unsent.length < s.capacity

/-- Makes a request that will be acknowledged; it may fail at once. -/
def request (kind : RequestKind) (topic : String) (s : Session) :
    Except BrokerError (Waiter × Session) :=
  if s.loop.acks.closed then .error (.sessionClosed s.url)
  else if !s.hasRoom || (kind == .subscribe && !takesFilter topic) then .error notTaken
  else
    .ok (s.next, { s with
      unsent := s.unsent ++ [.acknowledged kind topic]
      loop := { s.loop with acks := s.loop.acks.enqueue kind s.next }
      next := s.next + 1 })

def operation : RequestKind → String
  | .subscribe => "subscribe"
  | .unsubscribe => "unsubscribe"

/-- How a request ends: by what its waiter learns, or by nothing in time. -/
def conclude (kind : RequestKind) (topic : String) (s : Session) :
    Option Outcome → Except BrokerError Unit
  | none => .error (.timeout s.url (operation kind) s.operationTimeout)
  | some .accepted => .ok ()
  | some .abandoned => .error (.sessionClosed s.url)
  | some (.refused reason) =>
    match kind with
    | .subscribe => .error (.subscribe topic reason)
    | .unsubscribe => .error (.unsubscribe topic reason)

/-- Asks for the end of the session. Only the first call does something. -/
def disconnect (s : Session) : Except BrokerError Unit × Session :=
  if s.leaving then (.ok (), s)
  else if s.hasRoom then (.ok (), { s with leaving := true, unsent := s.unsent ++ [.disconnect] })
  else (.error notTaken, { s with leaving := true })

/-- Hands a result of the connection to the loop. A connection without the old session starts
anew: requests that were not sent are dropped. -/
def receive (polled : Polled) (s : Session) : Session × List Effect :=
  let (loop, effects) := s.loop.step s.maxReconnectDelay polled
  let unsent := if polled = .connAck .success false then [] else s.unsent
  ({ s with loop, unsent }, effects)

/-- The first request that waits is sent, with `id` as the id of its packet. -/
def transmit (id : PacketId) (s : Session) : Session × List Effect :=
  match s.unsent with
  | [] => (s, [])
  | .acknowledged kind _ :: rest => { s with unsent := rest }.receive (.sent kind id)
  | .disconnect :: rest => { s with unsent := rest }.receive .sentDisconnect

end Session

end SensorBridge.Mqtt

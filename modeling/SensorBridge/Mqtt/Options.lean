import SensorBridge.Broker
import SensorBridge.Decimal.Unsigned
import SensorBridge.Settings

/-!
How a session with a broker is opened. The url of a feed says where the broker is, and its query
may set options. The client id is written into that query; the settings of the service come last and
win.
-/
namespace SensorBridge.Mqtt

/-- Settings of a session that the client library does not accept. -/
inductive Misuse where
  | shortKeepAlive
  | namelessPersistence
  | noneInflight
  deriving DecidableEq, Repr

def Misuse.message : Misuse → String
  | .shortKeepAlive =>
    "Keep alives should be specified in seconds. " ++
      "Durations less than a second are not allowed, except for Duration::ZERO."
  | .namelessPersistence => "Cannot unset clean session when client id is empty"
  | .noneInflight => "zero in flight is not allowed"

/-- Why there are no options: a fault in the url, or a setting that is not accepted. -/
inductive OptionFault where
  | url (fault : UrlFault)
  | misuse (misuse : Misuse)
  deriving DecidableEq, Repr

/-- The options of a session. Times are in milliseconds. -/
structure Options where
  clientId : String
  host : Option Url.Host
  portNumber : Nat
  keepAlive : Nat := 60000
  cleanSession : Bool := true
  credentials : Option Credentials := none
  maxIncoming : Nat := 10240
  maxOutgoing : Nat := 10240
  requestCapacity : Nat := 10
  maxRequestBatch : Nat := 0
  /-- In microseconds. -/
  throttle : Nat := 0
  inflight : Nat := 100
  deriving DecidableEq, Repr

namespace Options

/-- The schemes of brokers, each with the number that goes without saying. -/
def schemes : List (String × Nat) :=
  [("mqtts", 8883), ("ssl", 8883), ("mqtt", 1883), ("tcp", 1883)]

def known : List String :=
  ["client_id", "keep_alive_secs", "clean_session", "max_incoming_packet_size_bytes",
   "max_outgoing_packet_size_bytes", "request_channel_capacity_num", "max_request_batch_num",
   "pending_throttle_usecs", "inflight_num"]

def number? (query : Url.Query) (name : String) (bits : Nat) (fault : UrlFault) :
    Except OptionFault (Option Nat) :=
  match query.get? name with
  | none => .ok none
  | some text =>
    match Decimal.readUnsigned bits text with
    | .ok n => .ok (some n)
    | .error _ => .error (.url fault)

def flag? (query : Url.Query) (name : String) (fault : UrlFault) :
    Except OptionFault (Option Bool) :=
  match query.get? name with
  | none => .ok none
  | some "true" => .ok (some true)
  | some "false" => .ok (some false)
  | some _ => .error (.url fault)

/-- A keep-alive time is none or at least a second. -/
def setKeepAlive (millis : Nat) (o : Options) : Except OptionFault Options :=
  if 0 < millis && millis < 1000 then .error (.misuse .shortKeepAlive)
  else .ok { o with keepAlive := millis }

/-- Only a client with a name can leave a session behind. -/
def setCleanSession (clean : Bool) (o : Options) : Except OptionFault Options :=
  if o.clientId.isEmpty && !clean then .error (.misuse .namelessPersistence)
  else .ok { o with cleanSession := clean }

def setInflight (n : Nat) (o : Options) : Except OptionFault Options :=
  if n = 0 then .error (.misuse .noneInflight) else .ok { o with inflight := n }

def userOf (url : Url) : Option Credentials :=
  if url.username.isEmpty then none else some ⟨url.username, url.password.getD ""⟩

def setIf {α : Type} (value : Option α) (set : α → Options → Except OptionFault Options)
    (o : Options) : Except OptionFault Options :=
  match value with
  | none => .ok o
  | some a => set a o

/-- The options that a url stands for. Of several faults the first in this order is reported. The
sizes of packets count only if both are there. -/
def ofUrl (url : Url) : Except OptionFault Options := do
  let some usual := schemes.lookup url.scheme | throw (.url .scheme)
  let q := url.query
  let some clientId := q.get? "client_id" | throw (.url .clientId)
  let o : Options := { clientId, host := url.host, portNumber := url.portNumber.getD usual }
  let keepAlive ← number? q "keep_alive_secs" 64 .keepAlive
  let o ← setIf keepAlive (fun n => setKeepAlive (n * 1000)) o
  let clean ← flag? q "clean_session" .cleanSession
  let o ← setIf clean setCleanSession o
  let o := { o with credentials := userOf url }
  let incoming ← number? q "max_incoming_packet_size_bytes" 64 .maxIncomingPacketSize
  let outgoing ← number? q "max_outgoing_packet_size_bytes" 64 .maxOutgoingPacketSize
  let o := match incoming, outgoing with
    | some i, some u => { o with maxIncoming := i, maxOutgoing := u }
    | _, _ => o
  let capacity ← number? q "request_channel_capacity_num" 64 .requestChannelCapacity
  let batch ← number? q "max_request_batch_num" 64 .maxRequestBatch
  let throttle ← number? q "pending_throttle_usecs" 64 .pendingThrottle
  let o := { o with
    requestCapacity := capacity.getD o.requestCapacity
    maxRequestBatch := batch.getD o.maxRequestBatch
    throttle := throttle.getD o.throttle }
  let inflight ← number? q "inflight_num" 16 .inflight
  let o ← setIf inflight setInflight o
  match q.unknown? known with
  | some name => throw (.url (.unknown name))
  | none => return o

/-- The name of a client: the stem all clients of the service share, and a unique part. -/
def uniqueName (settings : BrokerSettings) (unique : String) : String :=
  settings.clientIdStem ++ "-" ++ unique

/-- Writes a client id behind the query of a url, or as its query. -/
def withClientId (url id : String) : String :=
  if url.toList.contains '?' then url ++ "&client_id=" ++ id else url ++ "?client_id=" ++ id

/-- The credentials of a feed, which count if they name a user. -/
def feedUser? (feed : Feed) : Option Credentials :=
  feed.credentials.filter fun c => !c.username.isEmpty

def ofFeed (settings : BrokerSettings) (unique : String) (feed : Feed) :
    Except OptionFault Options := do
  match Url.parse (withClientId feed.url (uniqueName settings unique)) with
  | .error fault => throw (.url (.parse fault))
  | .ok url =>
    let o ← ofUrl url
    let o ← setKeepAlive settings.keepAlive o
    let o ← setCleanSession settings.cleanSession o
    return { o with credentials := (feedUser? feed).orElse fun _ => o.credentials }

end Options

end SensorBridge.Mqtt

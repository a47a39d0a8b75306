import SensorBridge.Connector.Routine
import SensorBridge.Text.Utf8

/-!
Messages: each measurement is checked against its data source, and those that fit are stored in
one call.
-/
namespace SensorBridge

structure SubscriptionKey where
  url : String
  topic : String
  deriving DecidableEq, Repr

def SubscriptionKey.text (k : SubscriptionKey) : String :=
  k.url ++ " " ++ k.topic

abbrev PayloadReader : Type := List UInt8 → Except Senml.Error (List Measurement)

/-- How the subscriptions of a session read payloads, by topic. They read a message one after the
other, and what is read may depend on the time. -/
abbrev PayloadReaders : Type := String → PayloadReader

structure Outcome where
  accepted : Nat := 0
  sources : Nat := 0
  /-- Names of dropped measurements and the reasons, in the order of the message. -/
  dropped : List (String × DropReason) := []
  deriving DecidableEq, Repr, Inhabited

/-- Whether a measurement carries no value of a kind other than that of its data source. An empty
string counts as no value for a source that stores numbers or truth values. -/
def ValueKind.fits (m : Measurement) : ValueKind → Bool
  | .float => m.flag.isNone && !m.hasText
  | .string => m.value.isNone && m.flag.isNone
  | .bool => m.value.isNone && !m.hasText

/-- The first check that a measurement fails against its data source. -/
def Source.mismatch? (s : Source) (key : SubscriptionKey) (m : Measurement) : Option DropReason :=
  match s.feed with
  | none => some .unwantedSource
  | some feed =>
    if feed.url ≠ key.url then some (.wrongBroker key.url)
    else if feed.topic ≠ key.topic then some (.wrongTopic key.topic)
    else if !s.kind.fits m then some (.typeMismatch s.kind)
    else none

/-- What a lookup means for a measurement. -/
def resolution : Except CatalogError (Option Source) → Except DropReason Source
  | .ok (some s) => .ok s
  | .ok none => .error .notFound
  | .error e => if e.isNotFound then .error .notFound else .error (.lookupFailed e.message)

namespace Routine

/-- What the cache knows of a name, which counts as a use. -/
def cached (name : String) : Routine (Option Source) := do
  let m ← update fun m => { m with cache := (m.cache.get name).2 }
  return (m.cache.get name).1

/-- The data source of a name, from the cache or the catalog. What the catalog says is kept unless
the cache was invalidated since before the lookup. -/
def resolve (name : String) : Routine (Except DropReason Source) := do
  match ← cached name with
  | some s => return .ok s
  | none =>
    let generation := (← memory).cache.generation
    let reply ← call (.lookup name)
    match resolution reply with
    | .ok s => do
      let _ ← update fun m => { m with cache := (m.cache.insert name s generation).2 }
      return .ok s
    | .error e => return .error e

/-- The data source that takes a measurement. -/
def accept (key : SubscriptionKey) (m : Measurement) : Routine (Except DropReason Source) := do
  if m.name.isEmpty then return .error .missingName
  match ← resolve m.name with
  | .error e => return .error e
  | .ok s =>
    match s.mismatch? key m with
    | some e => return .error e
    | none => return .ok s

/-- Sorts measurements into a batch and the dropped ones. -/
def sortOut (key : SubscriptionKey) :
    List Measurement → Batch → List (String × DropReason) →
      Routine (Batch × List (String × DropReason))
  | [], batch, dropped => return (batch, dropped.reverse)
  | m :: rest, batch, dropped => do
    match ← accept key m with
    | .ok s => sortOut key rest (batch.push s m) dropped
    | .error e => sortOut key rest batch ((m.name, e) :: dropped)

/-- Stores what fits of a payload in one call; nothing is stored if nothing fits. -/
def handle (read : PayloadReader) (key : SubscriptionKey) (payload : List UInt8) :
    Routine (Except MessageError Outcome) := do
  match read payload with
  | .error e => return .error (.payload e)
  | .ok measurements =>
    let (batch, dropped) ← sortOut key measurements {} []
    if batch.points.isEmpty then return .ok { dropped }
    match ← call (.submit batch) with
    | .error e => return .error (.storage e)
    | .ok () =>
      return .ok { accepted := batch.points.count, sources := batch.points.length, dropped }

def header (m : Message) : String :=
  "\"SUB " ++ m.topic ++ " MQTT/QOS" ++ toString m.qos.level ++ "\""

def report (key : SubscriptionKey) (m : Message) : Except MessageError Outcome → List LogEntry
  | .ok outcome =>
    outcome.dropped.map (fun (name, reason) =>
      .dropping (header m) name reason.message key.text) ++
    [if 0 < outcome.accepted then .accepted (header m) outcome.accepted outcome.sources
     else .nothingToStore (header m)]
  | .error (.payload e) => [.malformed (header m) e.message (Text.ofBytesMended m.payload)]
  | .error e => [.batchLost (header m) e.message]

def logAll : List LogEntry → Routine Unit
  | [] => pure ()
  | e :: es => do
    request (.log e)
    logAll es

def dispatch (read : PayloadReader) (key : SubscriptionKey) (m : Message) : Routine Unit := do
  logAll (report key m (← handle read key m.payload))

end Routine

end SensorBridge

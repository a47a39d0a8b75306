import SensorBridge.Decimal.Unsigned
import SensorBridge.Settings.Environment
import SensorBridge.Source.Json

/-!
The settings of the service. Variables override the defaults; two environment files fill in
variables that are not set, the first one before the second.
-/
namespace SensorBridge

/-- Timing and sizes of the connector; times are in milliseconds. -/
structure ConnectorSettings where
  /-- How many data sources are asked for at once when the catalog is replayed. -/
  pageSize : Nat := 100
  /-- The pause between attempts at failed registrations. -/
  retryInterval : Nat := 10000
  /-- How long a session is given to end. -/
  grace : Nat := 250
  cacheSize : Nat := 1000
  channelCapacity : Nat := 1
  deriving DecidableEq, Repr, Inhabited

def ConnectorSettings.fault? (s : ConnectorSettings) : Option String :=
  if s.pageSize = 0 then some "catalog_page_size must be greater than 0"
  else if s.cacheSize = 0 then some "resolution_cache_size must be greater than 0"
  else if s.retryInterval = 0 then some "retry_interval must not be zero"
  else none

/-- How sessions with a broker are held; times are in milliseconds. -/
structure BrokerSettings where
  /-- The first part of the client id. -/
  clientIdStem : String := "hds"
  keepAlive : Nat := 30000
  cleanSession : Bool := true
  connectionTimeout : Nat := 10000
  operationTimeout : Nat := 10000
  requestCapacity : Nat := 10
  eventCapacity : Nat := 100
  maxReconnectDelay : Nat := 30000
  deriving DecidableEq, Repr, Inhabited

structure Settings where
  connector : ConnectorSettings := {}
  broker : BrokerSettings := {}
  catalogFile : Option String := none
  logLevel : String := "info"
  deriving DecidableEq, Repr, Inhabited

structure InvalidValue where
  name : String
  value : String
  reason : String
  deriving DecidableEq, Repr

def InvalidValue.message (e : InvalidValue) : String :=
  "Invalid value '" ++ e.value ++ "' for " ++ e.name ++ ": " ++ e.reason

namespace Settings

def namespaceStem : String := "MQTT_INGEST_"

/-- The environment files, in the order in which they are loaded. -/
def envFiles : List String := [".env", ".env.local"]

/-- The value of a variable; one of blanks only counts as unset. -/
def var? (vs : Variables) (name : String) : Option String :=
  (vs.lookup (namespaceStem ++ name)).filter fun v => !Text.allBlank v

/-- The number in a variable, blanks around it aside. -/
def number? (vs : Variables) (name : String) : Except InvalidValue (Option Nat) :=
  match var? vs name with
  | none => .ok none
  | some value =>
    match Decimal.readUnsigned 64 (Text.trim value) with
    | .ok n => .ok (some n)
    | .error e => .error ⟨namespaceStem ++ name, value, e.message⟩

/-- The settings that variables describe. Of several bad values the first in this order is
reported. -/
def ofVariables (vs : Variables) : Except InvalidValue Settings := do
  let retry ← number? vs "RETRY_INTERVAL_SECS"
  if retry = some 0 then
    throw ⟨namespaceStem ++ "RETRY_INTERVAL_SECS", "0", "must be positive"⟩
  let pageSize ← number? vs "PAGE_SIZE"
  let cacheSize ← number? vs "CACHE_SIZE"
  let keepAlive ← number? vs "KEEP_ALIVE_SECS"
  let standard : Settings := {}
  return {
    connector := { standard.connector with
      retryInterval := (retry.map (· * 1000)).getD standard.connector.retryInterval
      pageSize := pageSize.getD standard.connector.pageSize
      cacheSize := cacheSize.getD standard.connector.cacheSize }
    broker := { standard.broker with
      keepAlive := (keepAlive.map (· * 1000)).getD standard.broker.keepAlive
      clientIdStem := (var? vs "CLIENT_ID_PREFIX").getD standard.broker.clientIdStem }
    catalogFile := var? vs "CATALOG_FILE"
    logLevel := (var? vs "LOG_LEVEL").getD standard.logLevel }

/-- The variables after the environment files. -/
def loadEnvFiles (vs : Variables) (files : Files) : Variables :=
  envFiles.foldl (fun vs path => vs.loadFile files path) vs

def ofEnvironment (vs : Variables) (files : Files) : Except InvalidValue Settings :=
  ofVariables (loadEnvFiles vs files)

inductive SeedError where
  | file (path : String) (cause : FileError)
  | json (path : String) (cause : Json.Error)

/-- The data sources to start with; there are none without a file. -/
def seedSources (s : Settings) (files : Files) : Except SeedError (List Source) :=
  match s.catalogFile with
  | none => .ok []
  | some path =>
    match files.read path with
    | .error e => .error (.file path e)
    | .ok content =>
      match Source.listOfJson content with
      | .error e => .error (.json path e)
      | .ok sources => .ok sources

def fileMessage (path : String) (cause : FileError) : String :=
  "Cannot read catalog file " ++ path ++ ": " ++ cause.message

end Settings

end SensorBridge

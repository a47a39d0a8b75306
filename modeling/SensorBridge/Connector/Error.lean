import SensorBridge.Broker
import SensorBridge.Catalog
import SensorBridge.Senml
import SensorBridge.Sink
import SensorBridge.Topic

/-!
Why an operation of the connector failed, why a whole message was lost, and why a single
measurement was dropped.
-/
namespace SensorBridge

inductive ConnectorError where
  | broker (cause : BrokerError)
  | catalog (cause : CatalogError)
  | qos (url topic : String) (level : UInt8)
  | filter (cause : Topic.FilterError)
  | configuration (reason : String)
  deriving DecidableEq, Repr

def ConnectorError.message : ConnectorError → String
  | .broker cause => "Broker error: " ++ cause.message
  | .catalog cause => "Catalog error: " ++ cause.message
  | .qos url topic level =>
    "Unsupported QoS " ++ toString level.toNat ++ " for topic " ++ topic ++ " on " ++ url
  | .filter cause => "Invalid topic filter: " ++ cause.message
  | .configuration reason => "Invalid configuration value: " ++ reason

inductive MessageError where
  | payload (cause : Senml.Error)
  | storage (cause : StorageError)

def MessageError.message : MessageError → String
  | .payload cause => cause.message
  | .storage cause => "Error writing data to the database: " ++ cause.message

inductive DropReason where
  | missingName
  | notFound
  | lookupFailed (cause : String)
  | unwantedSource
  | wrongBroker (url : String)
  | wrongTopic (topic : String)
  | typeMismatch (expected : ValueKind)
  deriving DecidableEq, Repr

def DropReason.message : DropReason → String
  | .missingName => "Resource name not specified"
  | .notFound => "Resource not found"
  | .lookupFailed cause => "Error finding resource: " ++ cause
  | .unwantedSource => "Ignoring unwanted message for resource"
  | .wrongBroker url => "Ignoring message from unwanted broker " ++ url
  | .wrongTopic topic => "Ignoring message with unwanted topic " ++ topic
  | .typeMismatch expected => "Entry type is incompatible with source type " ++ expected.name

/-- An abnormal end of a routine. It may carry a text. -/
structure Fault where
  text : Option String
  deriving DecidableEq, Repr

def Fault.reason (f : Fault) : String :=
  f.text.getD "unknown fault"

end SensorBridge

import SensorBridge.Source
import SensorBridge.Url

/-!
What the connector knows of brokers: why an operation on one fails, and what a session reports.
-/
namespace SensorBridge

/-- The codes with which a broker answers a connection. -/
inductive ReturnCode where
  | success
  | refusedProtocolVersion
  | badClientId
  | serviceUnavailable
  | badUserNamePassword
  | notAuthorized
  deriving DecidableEq, Repr, Inhabited

namespace ReturnCode

def name : ReturnCode → String
  | success => "Success"
  | refusedProtocolVersion => "RefusedProtocolVersion"
  | badClientId => "BadClientId"
  | serviceUnavailable => "ServiceUnavailable"
  | badUserNamePassword => "BadUserNamePassword"
  | notAuthorized => "NotAuthorized"

def ofNat? : Nat → Option ReturnCode
  | 0 => some success
  | 1 => some refusedProtocolVersion
  | 2 => some badClientId
  | 3 => some serviceUnavailable
  | 4 => some badUserNamePassword
  | 5 => some notAuthorized
  | _ => none

end ReturnCode

inductive UrlFault where
  | scheme
  | clientId
  | keepAlive
  | cleanSession
  | maxIncomingPacketSize
  | maxOutgoingPacketSize
  | requestChannelCapacity
  | maxRequestBatch
  | pendingThrottle
  | inflight
  | unknown (option : String)
  | parse (cause : Url.Fault)
  deriving DecidableEq, Repr

def UrlFault.message : UrlFault → String
  | .scheme => "Unsupported URL scheme."
  | .clientId => "Missing client ID."
  | .keepAlive => "Invalid keep-alive value."
  | .cleanSession => "Invalid clean-session value."
  | .maxIncomingPacketSize => "Invalid max-incoming-packet-size value."
  | .maxOutgoingPacketSize => "Invalid max-outgoing-packet-size value."
  | .requestChannelCapacity => "Invalid request-channel-capacity value."
  | .maxRequestBatch => "Invalid max-request-batch value."
  | .pendingThrottle => "Invalid pending-throttle value."
  | .inflight => "Invalid inflight value."
  | .unknown option => "Unknown option: " ++ option
  | .parse cause => "Couldn't parse option from url: " ++ cause.message

inductive BrokerError where
  | invalidUrl (url : String) (fault : UrlFault)
  | connect (url reason : String)
  | rejected (url : String) (code : ReturnCode)
  | timeout (url operation : String) (millis : Nat)
  | subscribe (topic reason : String)
  | unsubscribe (topic reason : String)
  | client (reason : String)
  | sessionClosed (url : String)
  deriving DecidableEq, Repr

def BrokerError.message : BrokerError → String
  | .invalidUrl url fault => "Invalid broker url '" ++ url ++ "': " ++ fault.message
  | .connect url reason => "Error connecting to broker " ++ url ++ ": " ++ reason
  | .rejected url code => "Broker " ++ url ++ " rejected connection: " ++ code.name
  | .timeout url operation millis =>
    operation ++ " on " ++ url ++ " timed out after " ++ toString millis ++ "ms"
  | .subscribe topic reason => "Error subscribing to " ++ topic ++ ": " ++ reason
  | .unsubscribe topic reason => "Error unsubscribing from " ++ topic ++ ": " ++ reason
  | .client reason => "Client operation failed: " ++ reason
  | .sessionClosed url => "Broker session " ++ url ++ " closed"

structure Message where
  topic : String
  payload : List UInt8
  qos : Qos
  deriving DecidableEq, Repr, Inhabited

inductive SessionEvent where
  | connected (sessionPresent : Bool)
  | lost (reason : String)
  | message (m : Message)
  deriving DecidableEq, Repr

/-- Sessions are numbered in the order in which they were opened. -/
abbrev SessionId : Type := Nat

end SensorBridge

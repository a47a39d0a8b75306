/-!
Data sources: what the catalog knows about one stream of measurements, and which broker
subscription feeds it.
-/
namespace SensorBridge

inductive ValueKind where
  | float
  | string
  | bool
  deriving DecidableEq, Repr, Inhabited

def ValueKind.name : ValueKind → String
  | .float => "float"
  | .string => "string"
  | .bool => "bool"

def ValueKind.all : List ValueKind := [.float, .string, .bool]

inductive Qos where
  | atMostOnce
  | atLeastOnce
  | exactlyOnce
  deriving DecidableEq, Repr, Inhabited

namespace Qos

def level : Qos → Nat
  | atMostOnce => 0
  | atLeastOnce => 1
  | exactlyOnce => 2

def ofLevel? : Nat → Option Qos
  | 0 => some atMostOnce
  | 1 => some atLeastOnce
  | 2 => some exactlyOnce
  | _ => none

end Qos

structure Credentials where
  username : String
  password : String
  deriving DecidableEq, Repr, Inhabited

/-- The broker subscription that feeds a data source. The delivery level is kept as written; it
need not be one a broker knows. -/
structure Feed where
  url : String
  topic : String
  level : UInt8 := 0
  credentials : Option Credentials := none
  deriving DecidableEq, Repr, Inhabited

def Feed.qos? (feed : Feed) : Option Qos :=
  Qos.ofLevel? feed.level.toNat

def Feed.withCredentials (feed : Feed) (username password : String) : Feed :=
  { feed with credentials := some ⟨username, password⟩ }

/-- A data source. `resource` is the name measurements carry, `retention` the period for which
they are kept, without end if it is empty. -/
structure Source where
  id : String := ""
  resource : String
  retention : String := ""
  kind : ValueKind := .float
  feed : Option Feed := none
  deriving DecidableEq, Repr, Inhabited

namespace Source

def withId (s : Source) (id : String) : Source := { s with id }
def withRetention (s : Source) (retention : String) : Source := { s with retention }
def withFeed (s : Source) (feed : Feed) : Source := { s with feed := some feed }

/-- The units in which a retention period counts. -/
def periodUnits : List Char := ['m', 'h', 'd', 'w']

/-- A retention period is empty, or ASCII digits, possibly none, followed by one unit. -/
def isPeriod (period : String) : Bool :=
  match period.toList.reverse with
  | [] => true
  | unit :: count => periodUnits.contains unit && count.all Char.isDigit

end Source

end SensorBridge

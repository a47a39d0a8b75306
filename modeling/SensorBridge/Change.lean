import SensorBridge.Source

/-!
Changes of the catalog, and the acknowledgments with which their receivers answer.
-/
namespace SensorBridge

inductive Change where
  | created (source : Source)
  | updated (old new : Source)
  | deleted (source : Source)
  deriving DecidableEq, Repr

namespace Change

def kind : Change → String
  | created _ => "create"
  | updated .. => "update"
  | deleted _ => "delete"

/-- The id of the data source that changed; for an update, the new one. -/
def sourceId : Change → String
  | created s => s.id
  | updated _ new => new.id
  | deleted s => s.id

end Change

/-- Why a change was not applied by a receiver. -/
inductive AckError where
  /-- Nobody listens; the change was not handed over. -/
  | listenerClosed
  /-- The change was handed over, but nobody answered. -/
  | ackLost
  | rejected (reason : String)
  | fault (reason : String)
  deriving DecidableEq, Repr

def AckError.message : AckError → String
  | .listenerClosed => "Notification listener closed"
  | .ackLost => "Notification acknowledgment lost"
  | .rejected reason => reason
  | .fault reason => "Notification handler fault: " ++ reason

abbrev Ack : Type := Except AckError Unit

end SensorBridge

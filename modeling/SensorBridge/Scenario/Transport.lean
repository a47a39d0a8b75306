import SensorBridge.Mqtt.Session

/-!
Sessions with a broker on a machine that has no network.
-/
namespace SensorBridge.Scenario

/-- What a connection gives there: the first attempt to reach the host fails. -/
def isolated : List Mqtt.Polled :=
  [.failed "I/O: Network is unreachable (os error 101)"]

def connectIsolated (settings : BrokerSettings) (unique : String) (feed : Feed) :
    Except Mqtt.ConnectFault Mqtt.Session :=
  (Mqtt.Session.connect settings unique feed isolated).map (·.1)

end SensorBridge.Scenario

/-!
Measurements: what one record of a message says about one resource at one time.
-/
namespace SensorBridge

/-- One measurement. It carries at most one value in practice, but each kind has its own place. -/
structure Measurement where
  name : String := ""
  time : Float := 0
  unit : Option String := none
  value : Option Float := none
  text : Option String := none
  flag : Option Bool := none
  sum : Option Float := none
  deriving Inhabited

namespace Measurement

def ofFloat (name : String) (value : Float) : Measurement := { name, value := some value }
def ofString (name text : String) : Measurement := { name, text := some text }
def ofBool (name : String) (flag : Bool) : Measurement := { name, flag := some flag }

def hasText (m : Measurement) : Bool :=
  match m.text with
  | some s => !s.isEmpty
  | none => false

end Measurement

end SensorBridge

import SensorBridge.Json.Record
import SensorBridge.Measurement

/-!
SenML packs in JSON. A record can set a base name, time and unit, which hold for itself and for
the records after it until they are set again.
-/
namespace SensorBridge.Senml

open Json Json.Reader

/-- Why a payload yields no measurements: it is not JSON of the expected form, or it breaks the
rules of the format. -/
inductive Error where
  | json (cause : Json.Error)
  | invalid (reason : String)

def Error.message : Error → String
  | .json _ => "Error parsing json"
  | .invalid reason => "Invalid SenML: " ++ reason

structure Record where
  baseName : Option String := none
  baseTime : Option Float := none
  baseUnit : Option String := none
  name : Option String := none
  unit : Option String := none
  value : Option Float := none
  text : Option String := none
  flag : Option Bool := none
  sum : Option Float := none
  time : Option Float := none
  deriving Inhabited

def Record.shape : Shape Record where
  description := "struct Record"
  blank := {}
  fields :=
    [⟨"bn", .nullable, fun r => return { r with baseName := ← optional string }⟩,
     ⟨"bt", .nullable, fun r => return { r with baseTime := ← optional double }⟩,
     ⟨"bu", .nullable, fun r => return { r with baseUnit := ← optional string }⟩,
     ⟨"n", .nullable, fun r => return { r with name := ← optional string }⟩,
     ⟨"u", .nullable, fun r => return { r with unit := ← optional string }⟩,
     ⟨"v", .nullable, fun r => return { r with value := ← optional double }⟩,
     ⟨"vs", .nullable, fun r => return { r with text := ← optional string }⟩,
     ⟨"vb", .nullable, fun r => return { r with flag := ← optional boolean }⟩,
     ⟨"s", .nullable, fun r => return { r with sum := ← optional double }⟩,
     ⟨"t", .nullable, fun r => return { r with time := ← optional double }⟩]

def Record.valueCount (r : Record) : Nat :=
  r.value.isSome.toNat + r.text.isSome.toNat + r.flag.isSome.toNat

structure Base where
  name : String := ""
  time : Float := 0
  unit : Option String := none
  deriving Inhabited

/-- The base after a record has set what it sets. -/
def Base.update (b : Base) (r : Record) : Base where
  name := r.baseName.getD b.name
  time := r.baseTime.getD b.time
  unit := r.baseUnit <|> b.unit

/-- Times below this one, in seconds, count from now. -/
def relativeLimit : Float := 268435456

def absoluteTime (now time : Float) : Float :=
  if time < relativeLimit then time + now else time

/-- The measurement of a record under the base in force for it. -/
def Record.resolve (r : Record) (b : Base) (now : Float) : Measurement where
  name := b.name ++ r.name.getD ""
  time := absoluteTime now (b.time + r.time.getD 0)
  unit := r.unit <|> b.unit
  value := r.value
  text := r.text
  flag := r.flag
  sum := r.sum

/-- The measurements of the records from the `index`-th on, with the base left by those before. -/
def resolveFrom (now : Float) : Nat → Base → List Record → Except Error (List Measurement)
  | _, _, [] => .ok []
  | index, b, r :: rest =>
    if 1 < r.valueCount then
      .error (.invalid ("record " ++ toString index ++ " carries more than one value"))
    else
      let b := b.update r
      match resolveFrom now (index + 1) b rest with
      | .error e => .error e
      | .ok ms => .ok (r.resolve b now :: ms)

/-- The measurements of a pack of records; there has to be one at least. -/
def resolve (now : Float) (records : List Record) : Except Error (List Measurement) :=
  if records.isEmpty then .error (.invalid "pack has no records")
  else resolveFrom now 0 {} records

def read (now : Float) (payload : List UInt8) : Except Error (List Measurement) :=
  match (list Record.shape.read).run payload with
  | .error e => .error (.json e)
  | .ok records => resolve now records

end SensorBridge.Senml

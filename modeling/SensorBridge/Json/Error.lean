import SensorBridge.Decimal.Shortest
import SensorBridge.Text.Quoted

/-!
Why a text could not be read as JSON of the wanted shape. The first problem in reading order is
the one reported.
-/
namespace SensorBridge.Json

/-- What stood where something else was wanted. -/
inductive Found where
  | null
  | boolean (b : Bool)
  | integer (n : Int)
  | float (x : Float)
  | string (s : String)
  | sequence
  | map

def Found.text : Found → String
  | .null => "null"
  | .boolean b => "boolean `" ++ (if b then "true" else "false") ++ "`"
  | .integer n => "integer `" ++ toString n ++ "`"
  | .float x => "floating point `" ++ Decimal.display x ++ "`"
  | .string s => "string " ++ Text.quoted s
  | .sequence => "sequence"
  | .map => "map"

/-- Text that is JSON but not of the wanted shape. -/
inductive DataError where
  | missingField (name : String)
  | duplicateField (name : String)
  | wrongType (found : Found) (expected : String)
  | outOfRange (n : Int) (expected : String)
  | wrongLength (length : Nat) (expected : String)
  | unknownVariant (name : String) (known : List String)

def DataError.message : DataError → String
  | .missingField name => "missing field `" ++ name ++ "`"
  | .duplicateField name => "duplicate field `" ++ name ++ "`"
  | .wrongType found expected => "invalid type: " ++ found.text ++ ", expected " ++ expected
  | .outOfRange n expected =>
    "invalid value: integer `" ++ toString n ++ "`, expected " ++ expected
  | .wrongLength length expected =>
    "invalid length " ++ toString length ++ ", expected " ++ expected
  | .unknownVariant name known =>
    "unknown variant `" ++ name ++ "`, expected one of " ++
      ", ".intercalate (known.map fun k => "`" ++ k ++ "`")

/-- `malformed` text breaks the grammar, `truncated` text ends too early. -/
inductive Error where
  | malformed
  | truncated
  | data (cause : DataError)

end SensorBridge.Json

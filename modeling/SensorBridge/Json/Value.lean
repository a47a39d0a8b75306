import SensorBridge.Json.Reader

/-!
JSON values of any shape, with the members of an object in the order of the text.
-/
namespace SensorBridge.Json

inductive Value where
  | null
  | boolean (b : Bool)
  | number (n : Number)
  | string (s : String)
  | list (items : List Value)
  | object (members : List (String × Value))

namespace Reader

def entries {α : Type} (item : Reader α) :
    Rounds → Bool → List (String × α) → Reader (List (String × α))
  | [], _, _ => fail .malformed
  | _ :: more, first, acc => do
    match ← nextKey first with
    | none => pure acc.reverse
    | some key =>
      colon
      let x ← item
      entries item more false ((key, x) :: acc)

def simple (b : UInt8) : Reader Value :=
  if b == 0x6e then do nullWord; pure .null
  else if b == 0x74 then do trueWord; pure (.boolean true)
  else if b == 0x66 then do falseWord; pure (.boolean false)
  else if b == 0x2d || isDigit b then do pure (.number (← number))
  else if b == quote then do pure (.string (← text))
  else fail .malformed

/-- A value with lists and objects nested at most `depth` deep. -/
def value : Nat → Reader Value
  | 0 => do simple (← peek)
  | depth + 1 => do
    let b ← peek
    if b == 0x5b then do
      advance
      let items ← elements (value depth) (← rounds) true []
      closeList
      pure (.list items)
    else if b == 0x7b then do
      advance
      pure (.object (← entries (value depth) (← rounds) true []))
    else simple b

end Reader

namespace Value

def maxDepth : Nat := 127

def ofBytes (bs : List UInt8) : Except Error Value :=
  (Reader.value maxDepth).run bs

/-- The values of a list, which counts as one level. -/
def listOfBytes (bs : List UInt8) : Except Error (List Value) :=
  (Reader.list (Reader.value (maxDepth - 1))).run bs

/-- The member of a name; of several, the last one. -/
def member? (v : Value) (name : String) : Option Value :=
  match v with
  | .object members => members.reverse.lookup name
  | _ => none

/-- The member of a name, unless it is `null`. -/
def get? (v : Value) (name : String) : Option Value :=
  match v.member? name with
  | some .null => none
  | m => m

def text? : Value → Option String
  | .string s => some s
  | _ => none

def flag? : Value → Option Bool
  | .boolean b => some b
  | _ => none

def double? : Value → Option Float
  | .number n => some n.toDouble
  | _ => none

def int? : Value → Option Int
  | .number (.integer n) => some n
  | _ => none

def nat? (v : Value) : Option Nat :=
  v.int?.map Int.toNat

def items : Value → List Value
  | .list items => items
  | _ => []

def members : Value → List (String × Value)
  | .object members => members
  | _ => []

end Value

end SensorBridge.Json

import SensorBridge.Decimal.Reading
import SensorBridge.Json.Error

/-!
Numbers of JSON. A numeral is first taken apart by the grammar and then given a value: an integer
where it has neither point nor exponent and fits in 64 bits, and a double otherwise.
-/
namespace SensorBridge.Json

open SensorBridge.Decimal

inductive Number where
  | integer (n : Int)
  | float (x : Float)

def Number.toDouble : Number → Float
  | .integer n =>
    if n < 0 then -(UInt64.ofNat n.natAbs).toFloat else (UInt64.ofNat n.natAbs).toFloat
  | .float x => x

def Number.found : Number → Found
  | .integer n => .integer n
  | .float x => .float x

def isDigit (b : UInt8) : Bool := 0x30 ≤ b && b ≤ 0x39
def digitValue (b : UInt8) : Nat := b.toNat - 0x30

def takeDigits (bs : List UInt8) : List Nat × List UInt8 :=
  ((bs.takeWhile isDigit).map digitValue, bs.dropWhile isDigit)

def someDigits (bs : List UInt8) : Except Error (List Nat × List UInt8) :=
  match takeDigits bs with
  | ([], []) => .error .truncated
  | ([], _) => .error .malformed
  | (ds, rest) => .ok (ds, rest)

/-- The digits before the point: a zero stands alone. -/
def readWhole (bs : List UInt8) : Except Error (List Nat × List UInt8) :=
  match someDigits bs with
  | .ok (0 :: _ :: _, _) => .error .malformed
  | r => r

def readFraction (bs : List UInt8) : Except Error (List Nat × List UInt8) :=
  match bs with
  | b :: rest => if b == 0x2e then someDigits rest else .ok ([], bs)
  | [] => .ok ([], [])

/-- An exponent: `e` or `E`, a sign or none, and digits. -/
def readExponent (bs : List UInt8) : Except Error (Option (Bool × List Nat) × List UInt8) :=
  match bs with
  | [] => .ok (none, [])
  | b :: rest =>
    if b == 0x65 || b == 0x45 then
      let (negative, rest) : Bool × List UInt8 :=
        match rest with
        | s :: r => if s == 0x2d then (true, r) else if s == 0x2b then (false, r) else (false, rest)
        | [] => (false, [])
      match someDigits rest with
      | .ok (ds, rest) => .ok (some (negative, ds), rest)
      | .error e => .error e
    else .ok (none, bs)

/-- The numeral at the front of a text that starts with a minus sign or a digit. -/
def readNumeral (bs : List UInt8) : Except Error (Numeral × List UInt8) := do
  let negative := bs.head? == some 0x2d
  let (whole, rest) ← readWhole (if negative then bs.tail else bs)
  let (fraction, rest) ← readFraction rest
  let (exponent, rest) ← readExponent rest
  return (⟨negative, whole, fraction, exponent⟩, rest)

/-- The value of a numeral; none if it is too large for a double. -/
def Number.ofNumeral? (n : Numeral) : Option Number :=
  match n.toInteger? with
  | some i => some (.integer i)
  | none => n.toDouble?.map .float

def readNumber (bs : List UInt8) : Except Error (Number × List UInt8) :=
  match readNumeral bs with
  | .error e => .error e
  | .ok (n, rest) =>
    match Number.ofNumeral? n with
    | some x => .ok (x, rest)
    | none => .error .malformed

/-- Passes over a numeral whose value is of no interest; one that ends early breaks the grammar. -/
def skipNumeral (bs : List UInt8) : Except Error (List UInt8) :=
  match readNumeral bs with
  | .error _ => .error .malformed
  | .ok (_, rest) => .ok rest

end SensorBridge.Json

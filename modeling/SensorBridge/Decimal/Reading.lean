/-!
The value of a decimal numeral as a double, by a rule that keeps the leading digits in one 64-bit
word and scales that word once by a power of ten. The result can differ from the nearest double in
its last places.
-/
namespace SensorBridge.Decimal

/-- A numeral by its parts; the digits are in reading order. -/
structure Numeral where
  negative : Bool
  whole : List Nat
  fraction : List Nat
  exponent : Option (Bool × List Nat)
  deriving DecidableEq, Repr

/-- The digits taken so far: the word they form, the power of ten owed to the others, and whether
a digit was already left out. -/
structure Significand where
  word : Nat
  scale : Int
  full : Bool
  deriving DecidableEq, Repr

namespace Significand

def zero : Significand := ⟨0, 0, false⟩

/-- A digit before the point. One that does not fit raises the scale, as do all after it. -/
def pushWhole (s : Significand) (d : Nat) : Significand :=
  if !s.full && s.word * 10 + d < UInt64.size then { s with word := s.word * 10 + d }
  else { s with scale := s.scale + 1, full := true }

/-- A digit after the point. One that does not fit is left out, as are all after it. -/
def pushFraction (s : Significand) (d : Nat) : Significand :=
  if !s.full && s.word * 10 + d < UInt64.size then
    { s with word := s.word * 10 + d, scale := s.scale - 1 }
  else { s with full := true }

end Significand

def Numeral.wholePart (n : Numeral) : Significand :=
  n.whole.foldl Significand.pushWhole .zero

def Numeral.significand (n : Numeral) : Significand :=
  n.fraction.foldl Significand.pushFraction { n.wholePart with full := false }

def maxExponent : Nat := 2147483647

/-- The written exponent without its sign; none if it leaves the 31-bit range. -/
def exponentSize? (digits : List Nat) : Option Nat :=
  let n := digits.foldl (fun n d => if n ≤ maxExponent then n * 10 + d else n) 0
  if n ≤ maxExponent then some n else none

def clampScale (e : Int) : Int :=
  max (-(maxExponent : Int) - 1) (min maxExponent e)

def tenTo (k : Nat) : Float :=
  Float.ofScientific 1 false k

/-- Divides by `10 ^ e`, by 308 powers at a time as long as more than that are owed. -/
def shrink (x : Float) (e : Nat) : Float :=
  if e ≤ 308 then x / tenTo e
  else if x == 0 then x
  else shrink (x / tenTo 308) (e - 308)
termination_by e

/-- `word * 10 ^ scale`; none if that is no finite double. -/
def scaled? (word : Nat) (scale : Int) : Option Float :=
  let x := (UInt64.ofNat word).toFloat
  if scale < 0 then some (shrink x scale.natAbs)
  else if scale ≤ 308 then
    let y := x * tenTo scale.natAbs
    if y.isInf then none else some y
  else if word = 0 then some x
  else none

def signed (negative : Bool) (x : Float) : Float :=
  if negative then -x else x

/-- The double a numeral stands for; none if it is too large. A written exponent beyond 31 bits
leaves zero, or nothing if it was positive and a digit was not zero. -/
def Numeral.toDouble? (n : Numeral) : Option Float :=
  let s := n.significand
  match n.exponent with
  | none => (scaled? s.word s.scale).map (signed n.negative)
  | some (negativeExponent, digits) =>
    match exponentSize? digits with
    | some e =>
      let scale := if negativeExponent then s.scale - e else s.scale + e
      (scaled? s.word (clampScale scale)).map (signed n.negative)
    | none =>
      if s.word ≠ 0 && !negativeExponent then none
      else some (signed n.negative 0)

/-- The integer a numeral stands for, if it has neither point nor exponent and fits in 64 bits,
signed for a negative one. Minus zero is no integer. -/
def Numeral.toInteger? (n : Numeral) : Option Int :=
  let s := n.wholePart
  if s.full || !n.fraction.isEmpty || n.exponent.isSome then none
  else if !n.negative then some s.word
  else if 0 < s.word && s.word ≤ UInt64.size / 2 then some (-(s.word : Int))
  else none

end SensorBridge.Decimal

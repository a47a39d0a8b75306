import SensorBridge.Text.Numeral
import SensorBridge.Text.Pieces
import SensorBridge.Text.Ranges

/-!
Tables over characters, written out as words between blanks. A word names the code points of a row
in hexadecimal and, behind a colon, what the table says of them:

* `B7` is one code point, `41-5A` a range, and `100/12E` every second code point of a range;
* `DF:73.73` has two values, `AD:` has none, and `B7` says nothing but that it is there;
* `E0:61.300,61.301` has values for a code point and for those that follow it, one row each.
-/
namespace SensorBridge.Text

structure Row where
  first : Nat
  last : Nat
  step : Nat := 1
  values : Option (List Nat) := none
  deriving DecidableEq, Repr, Inhabited

namespace Row

def number (cs : List Char) : Nat :=
  (numeral? 16 cs).getD 0

/-- The code points of a row, without values. -/
def ofRange (cs : List Char) : Row :=
  match cutAt (· == '/') cs, cutAt (· == '-') cs with
  | (first, some last), _ => { first := number first, last := number last, step := 2 }
  | _, (first, some last) => { first := number first, last := number last }
  | _, _ => { first := number cs, last := number cs }

/-- The values between points; no text has no values. -/
def valuesOf (cs : List Char) : List Nat :=
  if cs.isEmpty then [] else (pieces '.' cs).map number

def ofWord (cs : List Char) : List Row :=
  match cutAt (· == ':') cs with
  | (range, none) => [ofRange range]
  | (range, some text) =>
    match pieces ',' text with
    | [values] => [{ ofRange range with values := some (valuesOf values) }]
    | several => several.mapIdx fun i values =>
      { first := number range + i, last := number range + i, values := some (valuesOf values) }

def holds (r : Row) (n : Nat) : Bool :=
  r.first ≤ n && n ≤ r.last && (n - r.first) % r.step == 0

end Row

/-- Rows in ascending order that have no code point in common. -/
abbrev Table : Type := Array Row

namespace Table

def ofText (text : String) : Table :=
  let words := pieces ' ' (text.toList.map fun c => if c = '\n' then ' ' else c)
  ((words.filter (!·.isEmpty)).flatMap Row.ofWord).toArray

def find? (t : Table) (c : Char) : Option Row :=
  (findIn (fun r => (r.first, r.last)) t c.toNat (t.size + 1) 0 t.size).filter (·.holds c.toNat)

def contains (t : Table) (c : Char) : Bool :=
  (t.find? c).isSome

def rowWith? (t : Table) (values : List Nat) : Option Row :=
  Array.find? (·.values == some values) t

end Table

end SensorBridge.Text

/-!
Numbers written in digits of a base up to sixteen, in either case.
-/
namespace SensorBridge.Text

def hexDigit? (c : Char) : Option Nat :=
  if '0' ≤ c && c ≤ '9' then some (c.toNat - 48)
  else if 'a' ≤ c && c ≤ 'f' then some (c.toNat - 87)
  else if 'A' ≤ c && c ≤ 'F' then some (c.toNat - 55)
  else none

/-- The number that digits of a base write; none if one of them is no digit of the base. -/
def numeral? (base : Nat) (cs : List Char) : Option Nat :=
  cs.foldlM (fun n c => do
    let d ← hexDigit? c
    if d < base then some (n * base + d) else none) 0

end SensorBridge.Text
